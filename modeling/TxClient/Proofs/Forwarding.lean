import TxClient.Transactions

/-!
What the calls of handles and facades come to, for any implementation: the
report that comes in does not matter, the implementation is asked once, with a
success, and what it answers is passed on.
-/

namespace TxClient

variable {σ τ β ι α : Type}

/-- How a transaction is settled after its body. -/
def settlingOp {ρ : Type} : Except TransactionError ρ → SessionOp
  | .ok _ => .commit
  | .error _ => .rollback

namespace Call

theorem run_forward_some [Inhabited α] (op : Operation) (target : ι) (call : ι → Call σ α)
    (report : ErrorReport) (state : σ) :
    let outcome := ((call target).run .success).run state
    ((forward op (some target) call).run report).run state =
      ⟨outcome.value, outcome.state, .forwarding op :: outcome.events⟩ := rfl

theorem run_forward_none [Inhabited α] (op : Operation) (call : ι → Call σ α)
    (report : ErrorReport) (state : σ) :
    ((forward op none call).run report).run state =
      ⟨(default, .notUsable), state, [.withoutImplementation op]⟩ := rfl

theorem run_raise (call : Call σ α) (state : σ) :
    let outcome := (call.run .success).run state
    (raise call).run.run state =
      ⟨outcome.value.2.raised.map fun () => outcome.value.1, outcome.state, outcome.events⟩ := by
  simp [raise]

end Call

namespace Attempt

variable {attempt : Attempt σ α} {state middle : σ} {events : List Event}

theorem run_bind_of_ok {value : α} (hrun : attempt.run.run state = ⟨.ok value, middle, events⟩)
    (next : α → Attempt σ τ) :
    let outcome := (next value).run.run middle
    (attempt >>= next).run.run state =
      ⟨outcome.value, outcome.state, events ++ outcome.events⟩ := by
  simp [ExceptT.run_bind, hrun]

theorem run_bind_of_error {error : TransactionError}
    (hrun : attempt.run.run state = ⟨.error error, middle, events⟩) (next : α → Attempt σ τ) :
    (attempt >>= next).run.run state = ⟨.error error, middle, events⟩ := by
  simp [ExceptT.run_bind, hrun]

end Attempt

namespace Transactions

variable [Backends β ι σ] {txs : Transactions β} {backend : β}

/-- The report of a start: no session without a failure is a failure as well. -/
def startReport (session? : Option ι) (report : ErrorReport) : ErrorReport :=
  if session?.isNone && report.isSuccess then
    ⟨.generic, "backend did not start a transaction"⟩
  else report

theorem run_callStartWith (hbackend : txs.backend? = some backend) (thread : ThreadId)
    (options : TxOptions) (report : ErrorReport) (state : σ) :
    let started := ((Backends.start backend thread options : Call σ _).run .success).run state
    ((txs.callStartWith thread options : Call σ _).run report).run state =
      ⟨(⟨started.value.1⟩, startReport started.value.1 started.value.2), started.state,
        .forwarding .txStart ::
          .starting options.concurrency options.isolation (.ofNat options.timeout.wholeMillis)
            options.size :: started.events⟩ := by
  simp only [callStartWith, hbackend, Call.run_forward_some, startReport]
  generalize hstarted : ((Backends.start backend thread options : Call σ _).run .success).run state
    = started
  obtain ⟨⟨session?, filled⟩, after, events⟩ := started
  cases session? with
  | some session => simp [hstarted]
  | none => cases hfilled : filled.isSuccess <;> simp [hstarted, hfilled]

theorem run_callCurrent (hbackend : txs.backend? = some backend) (thread : ThreadId)
    (report : ErrorReport) (state : σ) :
    let found := ((Backends.current backend thread : Call σ _).run .success).run state
    ((txs.callCurrent thread : Call σ _).run report).run state =
      ⟨(⟨found.value.1⟩, found.value.2), found.state, .forwarding .getTx :: found.events⟩ := by
  simp [callCurrent, hbackend, Call.run_forward_some]

section Bodies

variable [Sessions ι σ]

theorem run_settle_ok (tx : Transaction ι) (value : α) (state : σ) :
    let committed := (tx.attempt .commit : Attempt σ _).run.run state
    (settle tx (.ok value) : Attempt σ α).run.run state =
      ⟨committed.value.map fun _ => value, committed.state, committed.events⟩ := by
  generalize hcommitted : (tx.attempt .commit : Attempt σ _).run.run state = committed
  obtain ⟨result, after, events⟩ := committed
  change (tx.attempt .commit >>= fun _ => pure value : Attempt σ α).run.run state = _
  cases result with
  | ok done =>
    rw [Attempt.run_bind_of_ok hcommitted]
    simp [Except.map]
  | error error =>
    rw [Attempt.run_bind_of_error hcommitted]
    simp [Except.map]

theorem run_settle_error (tx : Transaction ι) (error : TransactionError) (state : σ) :
    let undone := (tx.attempt .rollback : Attempt σ _).run.run state
    (settle tx (.error error) : Attempt σ α).run.run state =
      ⟨.error error, undone.state,
        undone.events ++
          match undone.value with
          | .ok () => []
          | .error rollbackError => [.rollbackFailed rollbackError]⟩ := by
  simp only [settle]
  generalize hundone : (tx.attempt .rollback : Attempt σ _).run.run state = undone
  obtain ⟨result, after, events⟩ := undone
  cases result with
  | ok result => cases result; simp [hundone]
  | error rollbackError => simp [hundone]

/-- Without a transaction the body does not run. -/
theorem run_transactWith_of_error {thread : ThreadId} {options : TxOptions} {state after : σ}
    {error : TransactionError} {events : List Event}
    (hstarted : (txs.startWith thread options : Attempt σ (Transaction ι)).run.run state =
      ⟨.error error, after, events⟩) (body : Transaction ι → Attempt σ α) :
    (txs.transactWith thread options body).run.run state = ⟨.error error, after, events⟩ :=
  Attempt.run_bind_of_error hstarted _

/-- Once the transaction is started the body runs, and whatever it does the
transaction is settled and closed after it. -/
theorem run_transactWith_of_ok {thread : ThreadId} {options : TxOptions} {state opened : σ}
    {tx : Transaction ι} {events : List Event}
    (hstarted : (txs.startWith thread options : Attempt σ (Transaction ι)).run.run state =
      ⟨.ok tx, opened, events⟩) (body : Transaction ι → Attempt σ α) :
    let ended := (body tx).run.run opened
    let settled := (settle tx ended.value : Attempt σ α).run.run ended.state
    let closed := (tx.attempt .close : Attempt σ _).run.run settled.state
    (txs.transactWith thread options body).run.run state =
      ⟨do
          let value ← settled.value
          let _ ← closed.value
          return value,
        closed.state, events ++ (ended.events ++ (settled.events ++ closed.events))⟩ := by
  intro ended settled closed
  rw [transactWith, Attempt.run_bind_of_ok hstarted]
  simp [ended, settled, closed, -bind_pure_comp]
  rfl

end Bodies

end Transactions

end TxClient
