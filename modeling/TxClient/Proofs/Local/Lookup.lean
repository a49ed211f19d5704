import TxClient.Proofs.Local.Within

/-!
Starting a transaction for a thread and looking up the one that it has. A start is
refused just as long as the thread has an unfinished session at the backend, and that
session is the one that is looked up. Whatever finishes it lets the thread go.
-/

namespace TxClient.Local

/-- An active session that has not been given up is finished by a commit, by a
rollback and when it is closed, however these come out. -/
theorem Session.isTerminal_react {session : Session} (hregular : session.Regular)
    (hactive : session.state.isActive = true) {op : SessionOp}
    (hop : op = .commit ∨ op = .rollback ∨ op = .close) (id : SessionId) (late : Bool) :
    (session.react id late op).state.isTerminal = true := by
  have hclosed : session.closed = false := by
    rw [← Bool.not_eq_true]
    intro hclosed
    exact TxState.not_isTerminal_of_isActive hactive (hregular.closed hclosed)
  rcases hop with rfl | rfl | rfl
  · rcases TxState.isActive_iff.1 hactive with hstate | hstate
    · cases late <;> simp [react, hclosed, hstate, expire, finish, Ending.state, TxState.isTerminal]
    · simp [react, hclosed, hstate, finish, Ending.state, TxState.isTerminal]
  · rcases TxState.isActive_iff.1 hactive with hstate | hstate <;>
      simp [react, hclosed, hstate, finish, Ending.state, TxState.isTerminal]
  · exact (react_close hregular id late).2

namespace World

/-- What a facade finds for a thread: a handle and what is reported with it. -/
def lookUp (world : World) (txs : Transactions BackendId) (thread : ThreadId)
    (report : ErrorReport) : Transaction SessionId × ErrorReport :=
  (((txs.callCurrent thread : Call World _).run report).run world).value

/-- The thread has the session, as far as a facade can tell: it is the one that is
looked up, and as soon as anybody finishes it nothing is looked up any more and the
thread can start another. Other threads do not notice. -/
structure Holds (world : World) (txs : Transactions BackendId) (thread : ThreadId)
    (session : SessionId) : Prop where
  found : ∀ report, ∃ tx, world.lookUp txs thread report = (tx, .success) ∧
    tx.sameSession ⟨some session⟩ = true
  finishes : ∀ op, op = .commit ∨ op = .rollback ∨ op = .close →
    (world.next (.session session op)).stateOf? session = some .committed ∨
      (world.next (.session session op)).stateOf? session = some .rolledBack
  released : ∀ op, op = .commit ∨ op = .rollback ∨ op = .close → ∀ report,
    (world.next (.session session op)).lookUp txs thread report = (.unusable, .success)
  startable : ∀ op, op = .commit ∨ op = .rollback ∨ op = .close → ∀ options, ∃ tx,
    ((txs.startWith thread options : Attempt World _).run.run
      (world.next (.session session op))).value = .ok tx
  others : ∀ op other, other ≠ thread → ∀ report,
    (world.next (.session session op)).lookUp txs other report = world.lookUp txs other report

section Facade

variable {world later : World} {txs : Transactions BackendId} {id : BackendId}
  {backend : Backend} {thread : ThreadId} {session : SessionId}

theorem lookUp_eq (htxs : txs.backend? = some id) (hbackend : world.backend? id = some backend)
    (thread : ThreadId) (report : ErrorReport) :
    world.lookUp txs thread report = (⟨backend.bound.find? thread⟩, .success) := by
  have hcurrent : ((Backends.current id thread : Call World _).run .success).run world =
      ⟨((world.backend? id).bind (·.bound.find? thread), .success), world, []⟩ := rfl
  rw [lookUp, Transactions.run_callCurrent htxs, hcurrent, hbackend]
  rfl

/-- The facade refers to the backend, which is live for that reason. -/
def Serves (world : World) (txs : Transactions BackendId) (id : BackendId) : Prop :=
  txs.backend? = some id ∧ ∃ backend, world.backend? id = some backend ∧ backend.live = true

theorem Serves.step {request : Request} (hserves : world.Serves txs id)
    (hrequest : request ≠ .around (.retire id)) : (world.next request).Serves txs id := by
  obtain ⟨htxs, backend, hbackend, hlive⟩ := hserves
  obtain ⟨later, hlater, hstays⟩ := (step_next world request).backend_stays hbackend
  exact ⟨htxs, later, hlater, hstays.2 ⟨hlive, hrequest⟩⟩

theorem Serves.after {asked : List Request} (hserves : world.Serves txs id)
    (hallowed : ∀ request ∈ asked, request.isAllowed [id] = true) :
    (world.after asked).Serves txs id := by
  obtain ⟨htxs, backend, hbackend, hlive⟩ := hserves
  exact ⟨htxs, live_after hbackend hlive List.mem_cons_self hallowed⟩

theorem Inv.eq_of_unfinished (hinv : world.Inv) (hserves : world.Serves txs id)
    {other : SessionId} (hsession : world.Unfinished id thread session)
    (hother : world.Unfinished id thread other) : other = session := by
  obtain ⟨-, backend, hbackend, hlive⟩ := hserves
  have hbound := hinv.bound id backend hbackend hlive thread
  exact Option.some.inj (((hbound other).2 hother).symm.trans ((hbound session).2 hsession))

theorem Inv.lookUp_of_unfinished (hinv : world.Inv) (hserves : world.Serves txs id)
    (hsession : world.Unfinished id thread session) (report : ErrorReport) :
    world.lookUp txs thread report = (⟨some session⟩, .success) := by
  obtain ⟨htxs, backend, hbackend, hlive⟩ := hserves
  rw [lookUp_eq htxs hbackend, (hinv.bound id backend hbackend hlive thread session).2 hsession]

theorem Inv.find?_of_finished (hinv : world.Inv) (hbackend : world.backend? id = some backend)
    (hlive : backend.live = true) (hnone : ∀ session, ¬ world.Unfinished id thread session) :
    backend.bound.find? thread = none := by
  rw [Option.eq_none_iff_forall_ne_some]
  intro session hbound
  exact hnone session ((hinv.bound id backend hbackend hlive thread session).1 hbound)

theorem Inv.lookUp_of_finished (hinv : world.Inv) (hserves : world.Serves txs id)
    (hnone : ∀ session, ¬ world.Unfinished id thread session) (report : ErrorReport) :
    world.lookUp txs thread report = (.unusable, .success) := by
  obtain ⟨htxs, backend, hbackend, hlive⟩ := hserves
  rw [lookUp_eq htxs hbackend, hinv.find?_of_finished hbackend hlive hnone]
  rfl

/-- What is looked up for a thread depends on its unfinished sessions only. -/
theorem Inv.lookUp_congr (hinv : world.Inv) (hserves : world.Serves txs id)
    (hlater : later.Inv) (hserves' : later.Serves txs id)
    (hsame : ∀ session, later.Unfinished id thread session ↔ world.Unfinished id thread session)
    (report : ErrorReport) : later.lookUp txs thread report = world.lookUp txs thread report := by
  by_cases hsome : ∃ session, world.Unfinished id thread session
  · obtain ⟨session, hsession⟩ := hsome
    rw [hinv.lookUp_of_unfinished hserves hsession,
      hlater.lookUp_of_unfinished hserves' ((hsame session).2 hsession)]
  · rw [not_exists] at hsome
    rw [hinv.lookUp_of_finished hserves hsome,
      hlater.lookUp_of_finished hserves' fun session hlate =>
        hsome session ((hsame session).1 hlate)]

/-- A start succeeds just when the thread has no unfinished session. -/
theorem Inv.startWith_ok_iff (hinv : world.Inv) (hserves : world.Serves txs id)
    (options : TxOptions) :
    (∃ tx, ((txs.startWith thread options : Attempt World _).run.run world).value = .ok tx) ↔
      ∀ session, ¬ world.Unfinished id thread session := by
  obtain ⟨htxs, backend, hbackend, hlive⟩ := hserves
  constructor
  · rintro ⟨tx, hstarted⟩ session hsession
    have hbound := (hinv.bound id backend hbackend hlive thread session).2 hsession
    rw [run_startWith_of_bound htxs hbackend hbound] at hstarted
    cases hstarted
  · intro hnone
    have hfree := hinv.find?_of_finished hbackend hlive hnone
    rw [run_startWith_of_free htxs hbackend hfree]
    exact ⟨_, rfl⟩

/-- A thread holds the session that it has not finished. -/
theorem Inv.holds (hinv : world.Inv) (hserves : world.Serves txs id)
    (hunfinished : world.Unfinished id thread session) : world.Holds txs thread session := by
  obtain ⟨found, hfound, hid, hthread, hactive⟩ := hunfinished
  have hstep (op : SessionOp) := step_next world (.session session op)
  have hinv' (op : SessionOp) : (world.next (.session session op)).Inv := hinv.step (hstep op)
  have hserves' (op : SessionOp) : (world.next (.session session op)).Serves txs id :=
    hserves.step nofun
  have hnext (op : SessionOp) : world.next (.session session op) =
      world.respond session found (found.react session (found.isTimedOut world.stopwatch) op) := by
    rw [next_session, run_perform hfound]
  have hterminal (op : SessionOp) (hop : op = .commit ∨ op = .rollback ∨ op = .close) :=
    Session.isTerminal_react (hinv.regular session found hfound) hactive hop session
      (found.isTimedOut world.stopwatch)
  -- the session was the only one, so there is none when it is finished
  have hnone (op : SessionOp) (hop : op = .commit ∨ op = .rollback ∨ op = .close)
      (other : SessionId) : ¬ (world.next (.session session op)).Unfinished id thread other := by
    rw [hnext, unfinished_respond hfound]
    rintro (⟨-, -, -, hrunning⟩ | ⟨hother, hunfinished⟩)
    · exact TxState.not_isTerminal_of_isActive hrunning (hterminal op hop)
    · exact hother
        (hinv.eq_of_unfinished hserves ⟨found, hfound, hid, hthread, hactive⟩ hunfinished)
  constructor
  case found =>
    intro report
    exact ⟨_, hinv.lookUp_of_unfinished hserves ⟨found, hfound, hid, hthread, hactive⟩ report,
      beq_self_eq_true session⟩
  case finishes =>
    intro op hop
    have hstate : (world.next (.session session op)).stateOf? session =
        some (found.react session (found.isTimedOut world.stopwatch) op).state := by
      rw [stateOf?, hnext, session?_respond, if_pos rfl, hfound]
      rfl
    rw [hstate]
    rcases TxState.isTerminal_iff.1 (hterminal op hop) with hcommitted | hrolledBack
    · exact .inl (congrArg some hcommitted)
    · exact .inr (congrArg some hrolledBack)
  case released =>
    intro op hop report
    exact (hinv' op).lookUp_of_finished (hserves' op) (hnone op hop) report
  case startable =>
    intro op hop options
    exact ((hinv' op).startWith_ok_iff (hserves' op) options).2 (hnone op hop)
  case others =>
    intro op other hother report
    refine hinv.lookUp_congr hserves (hinv' op) (hserves' op) ?_ report
    intro again
    rw [hnext, unfinished_respond hfound]
    by_cases hagain : again = session
    · subst hagain
      simp [unfinished_iff hfound, hthread, Ne.symm hother]
    · simp [hagain]

/-- A new session is the thread's own; what other threads look up stays. -/
theorem lookUp_enroll (htxs : txs.backend? = some id)
    (hbackend : world.backend? id = some backend) (thread : ThreadId) (options : TxOptions)
    {other : ThreadId} (hother : other ≠ thread) (report : ErrorReport) :
    (world.enroll id thread options).lookUp txs other report = world.lookUp txs other report := by
  have hopened : (world.enroll id thread options).backend? id =
      some { backend with bound := backend.bound.insert thread world.nextSession } := by
    rw [backend?_enroll, if_pos rfl, hbackend]
    rfl
  rw [lookUp_eq htxs hbackend, lookUp_eq htxs hopened]
  have hsame : (backend.bound.insert thread world.nextSession).find? other =
      backend.bound.find? other := by
    ext found
    simp [Bindings.find?_insert_eq_some_iff, hother]
  rw [hsame]

end Facade

end World

section Programs

variable {ρ : Type} {program : Program ρ} {past : List Moment} {txs : Transactions BackendId}
  {id : BackendId}

/-- The sessions that a thread has started are all at their end just when none of them
is still running. -/
theorem forall_starts_ended_iff {asked : List Request} {thread : ThreadId} :
    (∀ session, (∃ moment ∈ World.initial.moments asked, moment.Starts id thread session) →
      (World.initial.after asked).stateOf? session = some .committed ∨
        (World.initial.after asked).stateOf? session = some .rolledBack) ↔
      ∀ session, ¬ (World.initial.after asked).Unfinished id thread session := by
  have hinv : (World.initial.after asked).Inv := World.Inv.initial.after asked
  simp only [World.exists_starts_iff]
  constructor
  · rintro hended session ⟨found, hfound, hid, hthread, hactive⟩
    have hstate := hended session ⟨found, hfound, hid, hthread⟩
    simp only [World.stateOf?, hfound, Option.map_some, Option.some.injEq] at hstate
    exact TxState.not_isTerminal_of_isActive hactive (TxState.isTerminal_iff.2 hstate)
  · rintro hnone session ⟨found, hfound, hid, hthread⟩
    simp only [World.stateOf?, hfound, Option.map_some, Option.some.injEq]
    refine TxState.isTerminal_iff.1 ((hinv.regular session found hfound).state.resolve_left ?_)
    intro hactive
    exact hnone session ⟨found, hfound, hid, hthread, hactive⟩

/-- What a start comes to that has succeeded: the caller has a handle on a session that
was not there before, with the options that were asked for. The thread holds it for as
long as it is not finished, whatever else happens while the facade is there. -/
structure World.StartsFresh (world : World) (txs : Transactions BackendId) (id : BackendId)
    (thread : ThreadId) (options : TxOptions) (session : SessionId) (opened : World) : Prop where
  absent : world.session? session = none
  present : opened.session? session =
    some ⟨options, thread, id, world.stopwatch, .active, false⟩
  others : ∀ other, other ≠ thread → ∀ report,
    opened.lookUp txs other report = world.lookUp txs other report
  held : ∀ asked : List Request, (∀ request ∈ asked, request.isAllowed [id] = true) →
    (opened.after asked).stateOf? session ≠ some .committed →
    (opened.after asked).stateOf? session ≠ some .rolledBack →
      (opened.after asked).Holds txs thread session

/-- A session that was just started is held until it is finished. -/
theorem World.Inv.startsFresh {world : World} {backend : Backend} {thread : ThreadId}
    (hinv : world.Inv) (htxs : txs.backend? = some id)
    (hbackend : world.backend? id = some backend) (hlive : backend.live = true)
    (hfree : backend.bound.find? thread = none) (options : TxOptions) :
    world.StartsFresh txs id thread options world.nextSession
      (world.enroll id thread options) := by
  have hopened : world.next (.start id thread options) = world.enroll id thread options :=
    next_start_of_free hbackend hfree options
  have hstarted : (world.enroll id thread options).session? world.nextSession =
      some (world.fresh id thread options) := by
    rw [session?_enroll, if_pos rfl]
  refine ⟨session?_nextSession world, hstarted, ?_, ?_⟩
  · intro other hother report
    exact lookUp_enroll htxs hbackend thread options hother report
  · intro asked hallowed hcommitted hrolledBack
    have hserves : world.Serves txs id := ⟨htxs, backend, hbackend, hlive⟩
    have hserves' : (world.enroll id thread options).Serves txs id := hopened ▸ hserves.step nofun
    have hinv' : (world.enroll id thread options).Inv := hopened ▸ hinv.step (step_next world _)
    obtain ⟨later, hlater, hsame⟩ := session?_after hstarted asked
    simp only [stateOf?, hlater, Option.map_some, ne_eq, Option.some.injEq]
      at hcommitted hrolledBack
    have hactive : later.state.isActive = true := by
      refine ((hinv'.after asked).regular _ later hlater).state.resolve_right ?_
      intro hterminal
      exact (TxState.isTerminal_iff.1 hterminal).elim hcommitted hrolledBack
    exact (hinv'.after asked).holds (hserves'.after hallowed)
      ⟨later, hlater, hsame.backend, hsame.thread, hactive⟩

/-- A start through a facade succeeds just when all that its thread has ever started
there has come to its end. Then the thread holds a new session until it is finished. Else
nothing is started, and the failure names the one unfinished session, which the thread
holds. -/
theorem Program.start_agrees_with_lookUp (hpast : past <+: program.history)
    (hserves : (World.initial.reached past).Serves txs id) (thread : ThreadId)
    (options : TxOptions) :
    let world := World.initial.reached past
    let opened := (txs.startWith thread options : Attempt World _).run.run world
    ((∃ tx, opened.value = .ok tx) ↔
      ∀ session, (∃ moment ∈ past, moment.Starts id thread session) →
        world.stateOf? session = some .committed ∨ world.stateOf? session = some .rolledBack) ∧
    (∀ tx, opened.value = .ok tx → ∃ session, tx = ⟨some session⟩ ∧
      world.StartsFresh txs id thread options session opened.state) ∧
    ∀ error, opened.value = .error error → ∃ existing,
      error.kind = .illegalState ∧
      error.message = "a transaction has already been started by the current thread: " ++
        ("<tx" ++ toString existing.serial ++ ">") ∧
      (∀ report, (((txs.callStartWith thread options : Call World _).run report).run world).value =
        (.unusable, ErrorReport.ofError error)) ∧
      (∀ session, StillRunning past id thread session ↔ session = existing) ∧
      world.Holds txs thread existing := by
  obtain ⟨asked, rfl, hworld⟩ := Program.exists_asked hpast
  rw [hworld] at hserves ⊢
  intro world opened
  have hinv : world.Inv := World.Inv.initial.after asked
  refine ⟨(hinv.startWith_ok_iff hserves options).trans forall_starts_ended_iff.symm, ?_, ?_⟩
  · intro tx hstarted
    have hnone := (hinv.startWith_ok_iff hserves options).1 ⟨tx, hstarted⟩
    obtain ⟨htxs, backend, hbackend, hlive⟩ := hserves
    have hfree := hinv.find?_of_finished hbackend hlive hnone
    have hopened : opened = _ := run_startWith_of_free htxs hbackend hfree options
    rw [hopened] at hstarted ⊢
    exact ⟨world.nextSession, (Except.ok.inj hstarted).symm,
      hinv.startsFresh htxs hbackend hlive hfree options⟩
  · intro error hrefused
    have hsome : ∃ existing, world.Unfinished id thread existing := by
      by_contra hnone
      obtain ⟨tx, hstarted⟩ :=
        (hinv.startWith_ok_iff hserves options).2 fun session hsession => hnone ⟨session, hsession⟩
      cases hstarted.symm.trans hrefused
    obtain ⟨existing, hunfinished⟩ := hsome
    have hunique (session : SessionId) :
        StillRunning (World.initial.moments asked) id thread session ↔ session = existing := by
      rw [stillRunning_iff]
      refine ⟨hinv.eq_of_unfinished hserves hunfinished, ?_⟩
      rintro rfl
      exact hunfinished
    have hholds := hinv.holds hserves hunfinished
    obtain ⟨htxs, backend, hbackend, hlive⟩ := hserves
    have hbound := (hinv.bound id backend hbackend hlive thread existing).2 hunfinished
    have hopened : opened = _ := run_startWith_of_bound htxs hbackend hbound options
    rw [hopened] at hrefused
    obtain rfl := Except.error.inj hrefused
    refine ⟨existing, rfl, rfl, ?_, hunique, hholds⟩
    intro report
    rw [Transactions.run_callStartWith htxs, backends_start, run_start_of_bound hbackend hbound]
    rfl

/-- While its marked session is not finished a thread holds it and cannot start another,
and is told which one it has. A thread beside it can. -/
theorem Program.start_agrees_with_lookUp_beside_marked :
    let world := World.initial.after
      [.around .newBackend, .start ⟨0⟩ ⟨7⟩ default, .session ⟨0⟩ .setRollbackOnly]
    let txs : Transactions BackendId := ⟨some ⟨0⟩, .standard⟩
    world.Serves txs ⟨0⟩ ∧ world.Holds txs ⟨7⟩ ⟨0⟩ ∧
      (∃ error, ((txs.startWith ⟨7⟩ default : Attempt World _).run.run world).value =
          .error error ∧
        error.message = "a transaction has already been started by the current thread: <tx0>") ∧
      ∃ opened, world.StartsFresh txs ⟨0⟩ ⟨8⟩ default ⟨1⟩ opened := by
  intro world txs
  have hpast : World.initial.moments
      [.around .newBackend, .start ⟨0⟩ ⟨7⟩ default, .session ⟨0⟩ .setRollbackOnly] <+:
        (Program.ofRequests [.around .newBackend, .start ⟨0⟩ ⟨7⟩ default,
          .session ⟨0⟩ .setRollbackOnly]).history := by
    rw [Program.history_ofRequests]
  have hserves : world.Serves txs ⟨0⟩ := ⟨rfl, _, rfl, rfl⟩
  obtain ⟨-, -, hrefused⟩ := Program.start_agrees_with_lookUp hpast hserves ⟨7⟩ default
  obtain ⟨-, hstarted, -⟩ := Program.start_agrees_with_lookUp hpast hserves ⟨8⟩ default
  obtain ⟨existing, -, hmessage, -, -, hholds⟩ :=
    hrefused ⟨.illegalState, alreadyStartedMessage ⟨0⟩, ErrorKind.noConfusion⟩ rfl
  obtain ⟨session, htx, hfresh⟩ := hstarted ⟨some ⟨1⟩⟩ rfl
  cases htx
  obtain ⟨tx, hfound, hsame⟩ := hholds.found .success
  have hzero : world.lookUp txs ⟨7⟩ .success = (⟨some ⟨0⟩⟩, .success) := rfl
  obtain rfl : (⟨some ⟨0⟩⟩ : Transaction SessionId) = tx :=
    congrArg Prod.fst (hzero.symm.trans hfound)
  obtain rfl : (⟨0⟩ : SessionId) = existing := by
    simpa [Transaction.sameSession] using hsame
  exact ⟨hserves, hholds, ⟨_, rfl, hmessage.trans (by decide)⟩, _, hfresh⟩

end Programs

end TxClient.Local
