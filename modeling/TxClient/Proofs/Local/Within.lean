import TxClient.Proofs.Local.Binding

/-!
Transactions with a body over the local sessions. The body may do anything, also
with the session that it runs in; settling and closing take up whatever it leaves.
-/

namespace TxClient.Local

namespace Reaction

/-- What the caller gets when failures are raised. -/
def raised (reaction : Reaction) : Except TransactionError Unit :=
  (reaction.failure?.getD .success).raised

end Reaction

namespace Session

variable {session : Session} {id : SessionId} {late : Bool}

/-- A commit succeeds just when the session is active, not given up and in time. -/
theorem raised_react_commit :
    (session.react id late .commit).raised = .ok () ↔
      session.state = .active ∧ session.closed = false ∧ late = false := by
  unfold Reaction.raised
  simp only [react]
  cases hclosed : session.closed with
  | true => simp [refuse, ErrorReport.raised]
  | false =>
    cases hstate : session.state
    case active =>
      cases late with
      | true => simp [expire, ErrorReport.raised]
      | false => simp [finish, keep, ErrorReport.raised, ErrorReport.success]
    all_goals simp [refuse, ErrorReport.raised]

/-- Closing never fails. -/
theorem raised_react_close : (session.react id late .close).raised = .ok () := by
  unfold Reaction.raised
  simp only [react]
  split
  · rfl
  · split <;> rfl

/-- A commit leaves a committed session if it succeeds, or if it comes after one that
succeeded. -/
theorem committed_react_commit :
    (session.react id late .commit).state = .committed ↔
      (session.react id late .commit).raised = .ok () ∨ session.state = .committed := by
  rw [raised_react_commit]
  simp only [react]
  cases hclosed : session.closed with
  | true => simp [refuse, keep]
  | false =>
    cases hstate : session.state
    case active => cases late <;> simp [expire, finish, Ending.state]
    all_goals simp [refuse, keep, finish, Ending.state, hstate]

theorem committed_react_rollback :
    (session.react id late .rollback).state = .committed ↔ session.state = .committed := by
  simp only [react]
  cases hclosed : session.closed with
  | true => simp [refuse, keep]
  | false =>
    cases hstate : session.state
    all_goals simp [refuse, keep, finish, Ending.state, hstate]

theorem committed_react_close :
    (session.react id late .close).state = .committed ↔ session.state = .committed := by
  simp only [react]
  cases hclosed : session.closed with
  | true => simp [keep]
  | false =>
    cases hstate : session.state
    all_goals simp [keep, finish, Ending.state, hstate, TxState.isActive]

end Session

section Start

variable {world : World} {id : BackendId} {backend : Backend} {thread : ThreadId}
  {txs : Transactions BackendId}

/-- What is logged when a transaction is asked for. -/
def startEvents (options : TxOptions) : List Event :=
  [.forwarding .txStart,
    .starting options.concurrency options.isolation (.ofNat options.timeout.wholeMillis)
      options.size]

theorem run_startWith_of_free (htxs : txs.backend? = some id)
    (hbackend : world.backend? id = some backend) (hfree : backend.bound.find? thread = none)
    (options : TxOptions) :
    (txs.startWith thread options : Attempt World _).run.run world =
      ⟨.ok ⟨some world.nextSession⟩, world.enroll id thread options,
        startEvents options ++ [.started world.nextSession]⟩ := by
  rw [Transactions.startWith, Call.run_raise, Transactions.run_callStartWith htxs, backends_start,
    run_start_of_free hbackend hfree]
  rfl

theorem run_startWith_of_bound (htxs : txs.backend? = some id)
    (hbackend : world.backend? id = some backend) {existing : SessionId}
    (hbound : backend.bound.find? thread = some existing) (options : TxOptions) :
    (txs.startWith thread options : Attempt World _).run.run world =
      ⟨.error ⟨.illegalState, alreadyStartedMessage existing, nofun⟩, world,
        startEvents options⟩ := by
  rw [Transactions.startWith, Call.run_raise, Transactions.run_callStartWith htxs, backends_start,
    run_start_of_bound hbackend hbound]
  rfl

end Start

/-- An operation through a handle, when its failure is raised. -/
theorem run_attempt {world : World} {id : SessionId} {session : Session}
    (hsession : world.session? id = some session) (op : SessionOp) :
    let reaction := session.react id (session.isTimedOut world.stopwatch) op
    ((⟨some id⟩ : Transaction SessionId).attempt op : Attempt World _).run.run world =
      ⟨reaction.raised.map fun () => session.answer op, world.respond id session reaction,
        .forwarding (.session op) :: reaction.events⟩ := by
  intro reaction
  rw [Transaction.attempt, Call.run_raise, Transaction.call, Call.run_forward_some,
    sessions_perform, run_perform hsession]
  rfl

/-- A session is committed by settling only if its body succeeded. -/
theorem committed_react_settlingOp {ρ : Type} {session : Session} {id : SessionId} {late : Bool}
    (result : Except TransactionError ρ) :
    (session.react id late (settlingOp result)).state = .committed ↔
      (∃ value, result = .ok value) ∧ (session.react id late (settlingOp result)).raised = .ok () ∨
        session.state = .committed := by
  cases result with
  | ok value =>
    simp only [settlingOp, Except.ok.injEq, exists_eq', true_and]
    exact Session.committed_react_commit
  | error error =>
    simp only [settlingOp, reduceCtorEq, exists_false, false_and, false_or]
    exact Session.committed_react_rollback

section Transact

variable {ρ : Type} {world : World} {id : BackendId} {backend : Backend} {thread : ThreadId}
  {txs : Transactions BackendId} {options : TxOptions}

/-- Settling asks the session once. The failure of the body is kept. -/
theorem run_settle {session : SessionId} {found : Session}
    (hfound : world.session? session = some found) (result : Except TransactionError ρ) :
    let settled := found.react session (found.isTimedOut world.stopwatch) (settlingOp result)
    let outcome := (Transactions.settle (⟨some session⟩ : Transaction SessionId) result :
      Attempt World ρ).run.run world
    outcome.value = (result.bind fun value => settled.raised.map fun () => value) ∧
      outcome.state = world.respond session found settled := by
  intro settled outcome
  cases result with
  | ok value =>
    have houtcome : outcome = _ := Transactions.run_settle_ok _ value world
    rw [houtcome, run_attempt hfound]
    refine ⟨?_, rfl⟩
    change (settled.raised.map fun () => ()).map (fun _ => value) =
      settled.raised.map fun () => value
    cases settled.raised <;> rfl
  | error error =>
    have houtcome : outcome = _ := Transactions.run_settle_error _ error world
    rw [houtcome, run_attempt hfound]
    exact ⟨rfl, rfl⟩

/-- Once its session is started, a transaction is its body, and then the session is
settled and closed as the body has left it. -/
theorem run_transactWith_of_free (htxs : txs.backend? = some id)
    (hbackend : world.backend? id = some backend) (hfree : backend.bound.find? thread = none)
    {opened : World} (hopened : opened = world.enroll id thread options)
    (body : Transaction SessionId → Attempt World ρ) {found : Session} :
    let session := world.nextSession
    let ended := (body ⟨some session⟩).run.run opened
    ended.state.session? session = some found →
    let settled := found.react session (found.isTimedOut ended.state.stopwatch)
      (settlingOp ended.value)
    let middle := ended.state.respond session found settled
    let closed := (found.after settled).react session
      ((found.after settled).isTimedOut middle.stopwatch) .close
    let outcome := (txs.transactWith thread options body).run.run world
    outcome.value = (ended.value.bind fun value => settled.raised.map fun () => value) ∧
      outcome.state = middle.respond session (found.after settled) closed := by
  intro session ended hfound settled middle closed outcome
  subst hopened
  have hmiddle : middle.session? session = some (found.after settled) := by
    rw [World.session?_respond, if_pos rfl, hfound]
    rfl
  obtain ⟨hvalue, hstate⟩ := run_settle hfound ended.value
  have houtcome : outcome = _ := Transactions.run_transactWith_of_ok
    (run_startWith_of_free htxs hbackend hfree options) body
  have hclosed : ((⟨some session⟩ : Transaction SessionId).attempt .close : Attempt World _).run.run
      middle = _ := run_attempt hmiddle .close
  rw [houtcome]
  dsimp only
  rw [hstate, hvalue, hclosed, Session.raised_react_close]
  refine ⟨?_, rfl⟩
  -- closing does not fail, so what settling came to is what the caller gets
  change (do
    let value ← ended.value.bind fun value => settled.raised.map fun () => value
    let _ ← (Except.ok () : Except TransactionError Unit)
    pure value) = _
  cases (ended.value.bind fun value => settled.raised.map fun () => value) <;> rfl

/-- How a transaction with a body has to come out, given how its body came out: the
session is given up and at its end, and no live backend binds it. The transaction
succeeds just when the body did and has left the session active, not given up and
in time. -/
structure SoundEnd (session : SessionId) (ended outcome : Outcome World (Except TransactionError ρ))
    (left final : Session) : Prop where
  left_eq : ended.state.session? session = some left
  final_eq : outcome.state.session? session = some final
  closed : final.closed = true
  terminal : final.state.isTerminal = true
  unbound : ∀ id backend, outcome.state.backend? id = some backend → backend.live = true →
    ∀ thread, backend.bound.find? thread ≠ some session
  ok_iff : ∀ value, outcome.value = .ok value ↔
    ended.value = .ok value ∧ left.state = .active ∧ left.closed = false ∧
      ¬ left.IsLate ended.state.stopwatch
  error : ∀ error, ended.value = .error error → outcome.value = .error error
  committed_iff : final.state = .committed ↔
    (∃ value, outcome.value = .ok value) ∨ left.state = .committed
  rolledBack : final.state ≠ .committed → final.state = .rolledBack
  /-- All other bindings are as the body has left them. -/
  bindings : ∀ id earlier, ended.state.backend? id = some earlier → earlier.live = true →
    ∃ later, outcome.state.backend? id = some later ∧ later.live = true ∧
      ∀ thread other, later.bound.find? thread = some other ↔
        other ≠ session ∧ earlier.bound.find? thread = some other

/-- Settling and closing bring a session to its end, whatever has become of it. -/
theorem SoundEnd.of_settled {session : SessionId}
    {ended outcome : Outcome World (Except TransactionError ρ)} {found : Session}
    (hinv : ended.state.Inv) (hfound : ended.state.session? session = some found) :
    let settled := found.react session (found.isTimedOut ended.state.stopwatch)
      (settlingOp ended.value)
    let middle := ended.state.respond session found settled
    let closed := (found.after settled).react session
      ((found.after settled).isTimedOut middle.stopwatch) .close
    outcome.value = (ended.value.bind fun value => settled.raised.map fun () => value) →
      outcome.state = middle.respond session (found.after settled) closed →
        SoundEnd session ended outcome found ((found.after settled).after closed) := by
  intro settled middle closed hvalue hstate
  have hmiddle : middle.session? session = some (found.after settled) := by
    rw [World.session?_respond, if_pos rfl, hfound]
    rfl
  have hsettling : World.Step ended.state (.session session (settlingOp ended.value)) middle :=
    .asked _ hfound
  have hclosing : World.Step middle (.session session .close) outcome.state := by
    rw [hstate]
    exact .asked _ hmiddle
  have hinv' : middle.Inv := hinv.step hsettling
  have hend : outcome.state.Inv := hinv'.step hclosing
  have hregular : (found.after settled).Regular := hinv'.regular session _ hmiddle
  obtain ⟨hclosed, hterminal⟩ := Session.react_close hregular session
    ((found.after settled).isTimedOut middle.stopwatch)
  have hfinal : outcome.state.session? session = some ((found.after settled).after closed) := by
    rw [hstate, World.session?_respond, if_pos rfl, hmiddle]
    rfl
  have hothers {other : SessionId} (hother : other ≠ session) :
      outcome.state.session? other = ended.state.session? other := by
    rw [hstate, World.session?_respond, if_neg hother, World.session?_respond, if_neg hother]
  have hnot (id : BackendId) (thread : ThreadId) :
      ¬ outcome.state.Unfinished id thread session := by
    rw [World.unfinished_iff hfinal]
    rintro ⟨-, -, hactive⟩
    exact TxState.not_isTerminal_of_isActive hactive hterminal
  have hok (value : ρ) :
      outcome.value = .ok value ↔ ended.value = .ok value ∧ settled.raised = .ok () := by
    rw [hvalue]
    cases ended.value <;> cases settled.raised <;> simp [Except.bind, Except.map]
  have hcommitted : settled.state = .committed ↔
      (∃ value, outcome.value = .ok value) ∨ found.state = .committed := by
    simp only [hok, exists_and_right]
    exact committed_react_settlingOp ended.value
  refine ⟨hfound, hfinal, hclosed, hterminal, ?_, ?_, ?_, ?_, ?_, ?_⟩
  · intro id backend hbackend hlive thread hbound
    exact hnot id thread ((hend.bound id backend hbackend hlive thread session).1 hbound)
  · intro value
    rw [hok]
    refine and_congr_right fun hresult => ?_
    have hcommit : settled = found.react session (found.isTimedOut ended.state.stopwatch)
        .commit := by
      simp only [settled, hresult, settlingOp]
    rw [hcommit, Session.raised_react_commit, found.isTimedOut_eq, decide_eq_false_iff_not]
  · intro error herror
    rw [hvalue, herror]
    rfl
  · exact Session.committed_react_close.trans hcommitted
  · intro hnotCommitted
    exact (TxState.isTerminal_iff.1 hterminal).resolve_left hnotCommitted
  · intro id earlier hearlier hlive
    obtain ⟨between, hbetween, hstays⟩ := hsettling.backend_stays hearlier
    obtain ⟨later, hlater, hstays'⟩ := hclosing.backend_stays hbetween
    have hlaterLive : later.live = true := hstays'.2 ⟨hstays.2 ⟨hlive, nofun⟩, nofun⟩
    refine ⟨later, hlater, hlaterLive, ?_⟩
    intro thread other
    rw [hend.bound id later hlater hlaterLive, hinv.bound id earlier hearlier hlive]
    by_cases hother : other = session
    · subst hother
      simp [hnot id thread]
    · simp only [World.Unfinished, hothers hother, ne_eq, hother, not_false_eq_true, true_and]

/-- If the start is refused, the start is all that is asked. -/
theorem Program.historyFrom_within_of_bound (htxs : txs.backend? = some id)
    (hbackend : world.backend? id = some backend) {existing : SessionId}
    (hbound : backend.bound.find? thread = some existing) (inUse : List BackendId)
    (body : Transaction SessionId → Program ρ) :
    (Program.within txs thread options body .done).historyFrom inUse world =
      [⟨world, .start id thread options⟩] := by
  have hstarted : (txs.startWith thread options : Attempt Journal _).run.run ⟨world, []⟩ =
      ⟨.error ⟨.illegalState, alreadyStartedMessage existing, nofun⟩,
        ⟨world, [⟨world, .start id thread options⟩]⟩, startEvents options⟩ := by
    rw [Transactions.startWith, Call.run_raise, Transactions.run_callStartWith htxs,
      Journal.run_start, Journal.run_note, run_start_of_bound hbackend hbound]
    rfl
  have hrun := Transactions.run_transactWith_of_error hstarted fun tx =>
    ((body tx).run (txs.backend?.toList ++ inUse) : Attempt Journal ρ)
  rw [historyFrom, run_within_done, hrun]

variable (thread options) in
/-- A transaction with a body is sound, whatever the body asks. If the thread has an
unfinished session there already, the body does not run and nothing changes. Else
the body runs in a session of its own, and the transaction comes out as it should.
The backend is live, as the facade refers to it, and it is so still after the body. -/
theorem transactWith_sound (hreachable : world.Reachable) (htxs : txs.backend? = some id)
    (hbackend : world.backend? id = some backend) (hlive : backend.live = true)
    (inUse : List BackendId) (body : Transaction SessionId → Program ρ) :
    let outcome := (txs.transactWith thread options fun tx =>
      (body tx).run (id :: inUse) : Attempt World ρ).run.run world
    (∀ existing, world.Unfinished id thread existing →
      outcome.value = .error ⟨.illegalState, alreadyStartedMessage existing, nofun⟩ ∧
        outcome.state = world ∧
        (Program.within txs thread options body .done).historyFrom inUse world =
          [⟨world, .start id thread options⟩]) ∧
    ((∀ existing, ¬ world.Unfinished id thread existing) →
      let session := world.nextSession
      let opened := world.next (.start id thread options)
      let ended := ((body ⟨some session⟩).run (id :: inUse) : Attempt World ρ).run.run opened
      ∃ left final, left.SameOrigin (world.fresh id thread options) ∧
        SoundEnd session ended outcome left final ∧
        ∃ backend, ended.state.backend? id = some backend ∧ backend.live = true) := by
  intro outcome
  have hinv := hreachable.inv
  have hbound := hinv.bound id backend hbackend hlive thread
  refine ⟨?_, ?_⟩
  · intro existing hunfinished
    have hexisting := (hbound existing).2 hunfinished
    have hrefused := Transactions.run_transactWith_of_error
      (run_startWith_of_bound htxs hbackend hexisting options) fun tx =>
        ((body tx).run (id :: inUse) : Attempt World ρ)
    refine ⟨congrArg Outcome.value hrefused, congrArg Outcome.state hrefused, ?_⟩
    exact Program.historyFrom_within_of_bound htxs hbackend hexisting inUse body
  · intro hnone session opened ended
    have hfree : backend.bound.find? thread = none := by
      rw [Option.eq_none_iff_forall_ne_some]
      intro existing hexisting
      exact hnone existing ((hbound existing).1 hexisting)
    have hopened : opened = world.enroll id thread options :=
      World.next_start_of_free hbackend hfree options
    have hopenedInv : opened.Inv := hinv.step (World.step_next world _)
    -- what the body asks leads from the opened world to the one it ends in
    obtain ⟨-, -, asked, -, hended, hallowed⟩ :=
      (body ⟨some session⟩).run_explained (id :: inUse) opened
    have hendedInv : ended.state.Inv := by
      rw [hended]
      exact hopenedInv.after asked
    have hstarted : opened.session? session = some (world.fresh id thread options) := by
      rw [hopened, World.session?_enroll, if_pos rfl]
    obtain ⟨left, hleft, hsame⟩ := World.session?_after hstarted asked
    rw [← hended] at hleft
    obtain ⟨hvalue, hstate⟩ := run_transactWith_of_free htxs hbackend hfree hopened
      (fun tx => ((body tx).run (id :: inUse) : Attempt World ρ)) hleft
    have hopenedBackend : opened.backend? id =
        some { backend with bound := backend.bound.insert thread session } := by
      rw [hopened, World.backend?_enroll, if_pos rfl, hbackend]
      rfl
    obtain ⟨later, hlater, hstays⟩ :=
      World.live_after hopenedBackend hlive List.mem_cons_self hallowed
    rw [← hended] at hlater
    exact ⟨left, _, hsame, SoundEnd.of_settled hendedInv hleft hvalue hstate, later, hlater,
      hstays⟩

end Transact

/-- A body that succeeds after it has marked its session fails as a transaction, and
the session is rolled back. -/
theorem transactWith_sound_of_marked :
    let world := World.initial.addBackend
    let txs : Transactions BackendId := ⟨some ⟨0⟩, .standard⟩
    let body : Program Nat := .ask (.session ⟨0⟩ .setRollbackOnly) fun _ => .done (.ok 5)
    let outcome := (txs.transactWith ⟨7⟩ default fun _ => body.run [⟨0⟩] :
      Attempt World Nat).run.run world
    ∃ final, outcome.state.session? ⟨0⟩ = some final ∧ final.closed = true ∧
      final.state = .rolledBack := by
  intro world txs body outcome
  have hreachable : world.Reachable :=
    ⟨Unit, .ask (.around .newBackend) fun _ => .done (.ok ()), _, List.prefix_refl _, rfl⟩
  have htxs : txs.backend? = some ⟨0⟩ := rfl
  have hsound := transactWith_sound ⟨7⟩ default hreachable htxs rfl rfl [] fun _ => body
  have hnone (existing : SessionId) : ¬ world.Unfinished ⟨0⟩ ⟨7⟩ existing := by
    rintro ⟨found, hfound, -⟩
    cases hfound
  obtain ⟨left, final, -, hend, -⟩ := hsound.2 hnone
  have hleft : left = ⟨default, ⟨7⟩, ⟨0⟩, 0, .markedRollbackOnly, false⟩ :=
    Option.some.inj (hend.left_eq.symm.trans rfl)
  refine ⟨final, hend.final_eq, hend.closed, hend.rolledBack ?_⟩
  intro hcommitted
  rcases hend.committed_iff.1 hcommitted with ⟨value, hvalue⟩ | hstate
  · obtain ⟨-, hactive, -⟩ := (hend.ok_iff value).1 hvalue
    rw [hleft] at hactive
    cases hactive
  · rw [hleft] at hstate
    cases hstate

end TxClient.Local
