import TxClient.Local.Backend
import TxClient.Proofs.Correspondence
import TxClient.Proofs.Forms
import TxClient.Proofs.Trace

/-!
A transaction with a body over any implementation. After the body the session is
asked twice and no more: it is settled, and then it is closed whatever has come of
that. The first failure is the one that is raised, and the body comes first.
-/

namespace TxClient

variable {σ β ι α : Type}

/-- What is logged about a body that failed and could not be rolled back. -/
def rollbackWarning : Except TransactionError α → ErrorReport → List Event
  | .ok _, _ => []
  | .error _, undone =>
    match undone.raised with
    | .ok () => []
    | .error rollbackError => [.rollbackFailed rollbackError]

theorem mem_rollbackWarning_iff {result : Except TransactionError α} {undone : ErrorReport}
    {event : Event} :
    event ∈ rollbackWarning result undone ↔
      ∃ bodyError rollbackError, result = .error bodyError ∧
        ErrorReport.ofError rollbackError = undone ∧ event = .rollbackFailed rollbackError := by
  simp only [← ErrorReport.raised_eq_error_iff]
  cases result with
  | ok value => simp [rollbackWarning]
  | error bodyError =>
    cases hundone : undone.raised with
    | ok => simp [rollbackWarning, hundone]
    | error rollbackError => simp [rollbackWarning, hundone]

theorem warnings_rollbackWarning {result : Except TransactionError α} {undone : ErrorReport}
    {bodyError rollbackError : TransactionError} (hresult : result = .error bodyError)
    (hundone : ErrorReport.ofError rollbackError = undone) :
    warnings (rollbackWarning result undone) =
      [("rollback after failed transaction body failed",
        [("error", .text rollbackError.display)])] := by
  rw [hresult, rollbackWarning, ErrorReport.raised_eq_error_iff.2 hundone]
  rfl

/-- The value of a body, or the first failure: its own, that of settling, or that of
closing. -/
def firstFailure (result : Except TransactionError α) (settled closed : ErrorReport) :
    Except TransactionError α :=
  result.bind fun value => settled.raised.bind fun () => closed.raised.map fun () => value

section FirstFailure

variable {result : Except TransactionError α} {settled closed : ErrorReport} {value : α}
  {error : TransactionError}

/-- Settling and then closing raise the first failure. -/
theorem firstFailure_eq_bind {γ : Type} (given : γ) :
    firstFailure result settled closed = do
      let value ← result.bind fun value => settled.raised.map fun () => value
      let _ ← closed.raised.map fun () => given
      return value := by
  unfold firstFailure
  cases result <;> cases settled.raised <;> cases closed.raised <;> rfl

theorem firstFailure_of_body (hresult : result = .error error) :
    firstFailure result settled closed = .error error := by
  rw [hresult]
  rfl

theorem firstFailure_of_settled (hresult : result = .ok value)
    (hsettled : ErrorReport.ofError error = settled) :
    firstFailure result settled closed = .error error := by
  rw [firstFailure, hresult, ErrorReport.raised_eq_error_iff.2 hsettled]
  rfl

theorem firstFailure_of_closed (hresult : result = .ok value)
    (hsettled : settled.isSuccess = true) (hclosed : ErrorReport.ofError error = closed) :
    firstFailure result settled closed = .error error := by
  rw [firstFailure, hresult, ErrorReport.raised_eq_ok_iff.2 hsettled,
    ErrorReport.raised_eq_error_iff.2 hclosed]
  rfl

theorem firstFailure_eq_ok_iff :
    firstFailure result settled closed = .ok value ↔
      result = .ok value ∧ settled.isSuccess = true ∧ closed.isSuccess = true := by
  rw [← ErrorReport.raised_eq_ok_iff, ← ErrorReport.raised_eq_ok_iff]
  unfold firstFailure
  cases result <;> cases settled.raised <;> cases closed.raised <;>
    simp [Except.bind, Except.map]

end FirstFailure

namespace Watched

variable [Sessions ι σ]

theorem run_attempt (session : ι) (op : SessionOp) (watched : Watched β ι σ) :
    let own := ((Sessions.perform session op).run .success).run watched.state
    ((⟨some session⟩ : Transaction ι).attempt op : Attempt (Watched β ι σ) _).run.run watched =
      ⟨own.value.2.raised.map fun () => own.value.1,
        ⟨own.state, watched.consulted ++ [⟨.session op, session, .success⟩]⟩,
        .forwarding (.session op) :: own.events⟩ := by
  rw [Transaction.attempt, Call.run_raise, Transaction.call, Call.run_forward_some]
  rfl

/-- Settling asks the session once. A failure of the body is kept, and what becomes of
its rollback is only logged. -/
theorem run_settle (session : ι) (result : Except TransactionError α)
    (watched : Watched β ι σ) :
    let op := settlingOp result
    let own := ((Sessions.perform session op).run .success).run watched.state
    (Transactions.settle (⟨some session⟩ : Transaction ι) result :
        Attempt (Watched β ι σ) α).run.run watched =
      ⟨result.bind fun value => own.value.2.raised.map fun () => value,
        ⟨own.state, watched.consulted ++ [⟨.session op, session, .success⟩]⟩,
        .forwarding (.session op) :: (own.events ++ rollbackWarning result own.value.2)⟩ := by
  intro op own
  cases result with
  | ok value =>
    have hvalue : ((own.value.2.raised.map fun () => own.value.1).map fun _ => value) =
        own.value.2.raised.map fun () => value := by
      cases own.value.2.raised <;> rfl
    rw [Transactions.run_settle_ok, run_attempt]
    simp only [rollbackWarning, List.append_nil, Except.bind, ← hvalue]
    rfl
  | error bodyError =>
    have hwarning : (match own.value.2.raised.map fun () => own.value.1 with
          | .ok () => []
          | .error rollbackError => [.rollbackFailed rollbackError]) =
        rollbackWarning (.error bodyError : Except TransactionError α) own.value.2 := by
      simp only [rollbackWarning]
      cases own.value.2.raised <;> rfl
    rw [Transactions.run_settle_error, run_attempt, ← hwarning]
    rfl

end Watched

/-- The state that is watched. -/
def Watched.Watches (watched : Watched β ι σ) (state : σ) : Prop :=
  watched.state = state

/-- An implementation that is watched answers as it does unwatched. -/
theorem Watched.corresponding [Sessions ι σ] [Backends β ι σ] :
    Corresponding (Watches : Watched β ι σ → σ → Prop) β ι where
  perform session op report := by
    rintro watched state rfl
    exact ⟨rfl, rfl, rfl⟩
  start backend thread options report := by
    rintro watched state rfl
    exact ⟨rfl, rfl, rfl⟩

/-- How a transaction with a body goes on when its body has ended. The session is asked
to commit or to roll back, and is then closed; `settled` and `closed` are what it
makes of that. -/
structure Concluded [Sessions ι σ] (session : ι) (announced : List Event)
    (ended : Outcome (Watched β ι σ) (Except TransactionError α))
    (settled : Outcome σ ((settlingOp ended.value).Result × ErrorReport))
    (closed : Outcome σ (SessionOp.Result .close × ErrorReport))
    (outcome : Outcome (Watched β ι σ) (Except TransactionError α)) : Prop where
  settled_eq : settled =
    ((Sessions.perform session (settlingOp ended.value)).run .success).run ended.state.state
  closed_eq : closed = ((Sessions.perform session .close).run .success).run settled.state
  /-- Nobody else is asked, and the session is not asked again. -/
  state : outcome.state = ⟨closed.state, ended.state.consulted ++
    [⟨.session (settlingOp ended.value), session, .success⟩,
      ⟨.session .close, session, .success⟩]⟩
  body_error : ∀ error, ended.value = .error error → outcome.value = .error error
  commit_error : ∀ value error, ended.value = .ok value →
    ErrorReport.ofError error = settled.value.2 → outcome.value = .error error
  close_error : ∀ value error, ended.value = .ok value → settled.value.2.isSuccess = true →
    ErrorReport.ofError error = closed.value.2 → outcome.value = .error error
  ok_iff : ∀ value, outcome.value = .ok value ↔
    ended.value = .ok value ∧ settled.value.2.isSuccess = true ∧ closed.value.2.isSuccess = true
  events : outcome.events = announced ++ (ended.events ++
    (.forwarding (.session (settlingOp ended.value)) ::
      (settled.events ++ rollbackWarning ended.value settled.value.2) ++
    .forwarding (.session .close) :: closed.events))
  warning : ∀ event, event ∈ rollbackWarning ended.value settled.value.2 ↔
    ∃ bodyError rollbackError, ended.value = .error bodyError ∧
      ErrorReport.ofError rollbackError = settled.value.2 ∧ event = .rollbackFailed rollbackError
  /-- The caller gets the failure of the body; that of the rollback is in the warning. -/
  warned : ∀ bodyError rollbackError, ended.value = .error bodyError →
    ErrorReport.ofError rollbackError = settled.value.2 →
      warnings (rollbackWarning ended.value settled.value.2) =
        [("rollback after failed transaction body failed",
          [("error", .text rollbackError.display)])]

namespace Transactions

variable [Backends β ι σ]

/-- A watched start is a start, and is written down. -/
theorem run_startWith_watched (backend : β) (config : Config) (thread : ThreadId)
    (options : TxOptions) (state : σ) (earlier : List (Consultation β ι)) :
    let started :=
      ((Backends.start backend thread options : Call σ (Option ι)).run .success).run state
    ((⟨some backend, config⟩ : Transactions β).startWith thread options :
        Attempt (Watched β ι σ) _).run.run ⟨state, earlier⟩ =
      ⟨(startReport started.value.1 started.value.2).raised.map fun () => ⟨started.value.1⟩,
        ⟨started.state, earlier ++ [⟨.start thread options, backend, .success⟩]⟩,
        (Service.start thread options).announcement ++ started.events⟩ := by
  let txs : Transactions β := ⟨some backend, config⟩
  have htxs : txs.backend? = some backend := rfl
  intro started
  rw [startWith, Call.run_raise, run_callStartWith htxs]
  rfl

variable [Sessions ι σ]

/-- From a session that is started to the end of its transaction. -/
theorem concluded_of_started {txs : Transactions β} {thread : ThreadId} {options : TxOptions}
    {watched opened : Watched β ι σ} {session : ι} {announced : List Event}
    (hstarted : (txs.startWith thread options : Attempt (Watched β ι σ) _).run.run watched =
      ⟨.ok ⟨some session⟩, opened, announced⟩)
    (body : Transaction ι → Attempt (Watched β ι σ) α) :
    ∃ settled closed,
      Concluded session announced ((body ⟨some session⟩).run.run opened) settled closed
        ((txs.transactWith thread options body).run.run watched) := by
  generalize hended : (body ⟨some session⟩).run.run opened = ended
  let settled := ((Sessions.perform session (settlingOp ended.value)).run .success).run
    ended.state.state
  let closed := ((Sessions.perform session .close).run .success).run settled.state
  have hrun := run_transactWith_of_ok hstarted body
  simp only [hended, Watched.run_settle, Watched.run_attempt] at hrun
  have hvalue : ((txs.transactWith thread options body).run.run watched).value =
      firstFailure ended.value settled.value.2 closed.value.2 := by
    rw [hrun]
    exact (firstFailure_eq_bind closed.value.1).symm
  refine ⟨settled, closed, rfl, rfl, ?_, ?_, ?_, ?_, ?_, ?_, fun _ => mem_rollbackWarning_iff,
    fun _ _ => warnings_rollbackWarning⟩
  · rw [hrun]
    simp [settled, closed]
  · intro error herror
    exact hvalue.trans (firstFailure_of_body herror)
  · intro value error hok herror
    exact hvalue.trans (firstFailure_of_settled hok herror)
  · intro value error hok hsuccess herror
    exact hvalue.trans (firstFailure_of_closed hok hsuccess herror)
  · intro value
    rw [hvalue]
    exact firstFailure_eq_ok_iff
  · rw [hrun]

/-- A transaction with a body asks for a start once. If that fails nothing else happens;
else the body runs from there, and the session is settled and closed after it. Whether
the implementation is watched makes no difference to it. -/
theorem transactWith_brackets (backend : β) (config : Config) (thread : ThreadId)
    (options : TxOptions) (body : Transaction ι → Attempt (Watched β ι σ) α) (state : σ)
    (earlier : List (Consultation β ι)) :
    let txs : Transactions β := ⟨some backend, config⟩
    let started :=
      ((Backends.start backend thread options : Call σ (Option ι)).run .success).run state
    let opened : Watched β ι σ :=
      ⟨started.state, earlier ++ [⟨.start thread options, backend, .success⟩]⟩
    let announced := (Service.start thread options).announcement ++ started.events
    let outcome := (txs.transactWith thread options body).run.run ⟨state, earlier⟩
    (started.value.2.isSuccess = false →
      ∃ error, ErrorReport.ofError error = started.value.2 ∧
        outcome = ⟨.error error, opened, announced⟩) ∧
    (started.value.1 = none → started.value.2.isSuccess = true →
      outcome = ⟨.error (.ofKind .generic "backend did not start a transaction"), opened,
        announced⟩) ∧
    (∀ session, started.value.1 = some session → started.value.2.isSuccess = true →
      ∃ settled closed,
        Concluded session announced ((body ⟨some session⟩).run.run opened) settled closed outcome) ∧
    (options = config.txOptions →
      (txs.transact thread body).run.run ⟨state, earlier⟩ = outcome) ∧
    (∀ unwatched : Transaction ι → Attempt σ α,
      (∀ tx, Attempt.Related Watched.Watches (body tx) (unwatched tx)) →
      (txs.transactWith thread options unwatched).run.run state =
        ⟨outcome.value, outcome.state.state, outcome.events⟩) := by
  intro txs started opened announced outcome
  have hstarted : (txs.startWith thread options : Attempt (Watched β ι σ) _).run.run
      ⟨state, earlier⟩ =
      ⟨(startReport started.value.1 started.value.2).raised.map fun () => ⟨started.value.1⟩,
        opened, announced⟩ :=
    run_startWith_watched backend config thread options state earlier
  have hrefused {error : TransactionError}
      (hreport : ErrorReport.ofError error = startReport started.value.1 started.value.2) :
      outcome = ⟨.error error, opened, announced⟩ := by
    rw [ErrorReport.raised_eq_error_iff.2 hreport] at hstarted
    exact run_transactWith_of_error hstarted body
  refine ⟨?_, ?_, ?_, ?_, ?_⟩
  · intro hfailure
    obtain ⟨error, herror⟩ := ErrorReport.exists_ofError_eq hfailure
    refine ⟨error, herror, hrefused (herror.trans ?_)⟩
    simp [startReport, hfailure]
  · intro hnone hsuccess
    refine hrefused ?_
    simp [startReport, hnone, hsuccess]
    rfl
  · intro session hsession hsuccess
    have hreport : startReport started.value.1 started.value.2 = started.value.2 := by
      simp [startReport, hsession]
    rw [hreport, ErrorReport.raised_eq_ok_iff.2 hsuccess, hsession] at hstarted
    exact concluded_of_started hstarted body
  · rintro rfl
    rfl
  · intro unwatched hbody
    let own := (txs.transactWith thread options unwatched).run.run state
    obtain ⟨hvalue, hevents, hstate⟩ : outcome.value = own.value ∧ outcome.events = own.events ∧
        outcome.state.state = own.state :=
      Watched.corresponding.transactWith txs thread options hbody ⟨state, earlier⟩ state rfl
    rw [hvalue, hevents, hstate]

/-- A body commits its own transaction and then fails. Its rollback fails as well, and
is only logged; the session is closed all the same. -/
theorem transactWith_brackets_of_committed :
    let failure : TransactionError := .ofKind .illegalArgument "no stock"
    let undone : TransactionError :=
      .ofKind .illegalState (Local.inactiveMessage ⟨0⟩ .committed)
    let body : Transaction SessionId → Attempt (Watched BackendId SessionId Local.World) Nat :=
      fun tx => do
        tx.attempt .commit
        throw failure
    let txs : Transactions BackendId := ⟨some ⟨0⟩, .standard⟩
    let outcome := (txs.transactWith ⟨7⟩ default body).run.run ⟨Local.World.initial.addBackend, []⟩
    outcome.value = .error failure ∧
      outcome.state.consulted.map (·.service) = [.start ⟨7⟩ default, .session .commit,
        .session .rollback, .session .close] ∧
      .rollbackFailed undone ∈ outcome.events := by
  intro failure undone body txs outcome
  obtain ⟨-, -, hstarted, -, -⟩ := transactWith_brackets (⟨0⟩ : BackendId) .standard ⟨7⟩ default
    body Local.World.initial.addBackend []
  obtain ⟨settled, closed, hend⟩ := hstarted ⟨0⟩ rfl rfl
  have hundone : ErrorReport.ofError undone = settled.value.2 := by
    rw [hend.settled_eq]
    rfl
  have hwarning := (hend.warning _).2 ⟨failure, undone, rfl, hundone, rfl⟩
  have hstate : outcome.state = _ := hend.state
  have hevents : outcome.events = _ := hend.events
  refine ⟨hend.body_error failure rfl, ?_, ?_⟩
  · rw [hstate]
    rfl
  · rw [hevents]
    apply List.mem_append_right
    apply List.mem_append_right
    apply List.mem_append_left
    exact List.mem_cons_of_mem _ (List.mem_append_right _ hwarning)

end Transactions

end TxClient
