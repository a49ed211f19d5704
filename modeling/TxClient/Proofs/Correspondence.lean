import TxClient.Transactions

/-!
Runs over two states that correspond. If the two implementations answer alike
and keep the states in correspondence, so do all the calls that are made through
handles and facades, transactions with a body among them.
-/

namespace TxClient

variable {σ τ α β γ ι : Type} {S : σ → τ → Prop}

/-- Two actions give the same value and cause the same events on states that
correspond, and leave states that correspond. -/
def Action.Related (S : σ → τ → Prop) (first : Action σ α) (second : Action τ α) : Prop :=
  ∀ state other, S state other →
    (first.run state).value = (second.run other).value ∧
      (first.run state).events = (second.run other).events ∧
      S (first.run state).state (second.run other).state

/-- Two calls answer alike from every report. -/
def Call.Related (S : σ → τ → Prop) (first : Call σ α) (second : Call τ α) : Prop :=
  ∀ report, Action.Related S (first.run report) (second.run report)

/-- Two attempts give the same value or raise the same failure. -/
def Attempt.Related (S : σ → τ → Prop) (first : Attempt σ α) (second : Attempt τ α) : Prop :=
  Action.Related S first.run second.run

namespace Action.Related

theorem pure (value : α) :
    Action.Related S (Pure.pure value : Action σ α) (Pure.pure value : Action τ α) :=
  fun _ _ hstate => ⟨rfl, rfl, hstate⟩

theorem emit (event : Event) :
    Action.Related S (Action.emit event : Action σ Unit) (Action.emit event : Action τ Unit) :=
  fun _ _ hstate => ⟨rfl, rfl, hstate⟩

theorem bind {first : Action σ α} {second : Action τ α} {next : α → Action σ γ}
    {after : α → Action τ γ} (hfirst : Action.Related S first second)
    (hnext : ∀ value, Action.Related S (next value) (after value)) :
    Action.Related S (first >>= next) (second >>= after) := by
  intro state other hstate
  obtain ⟨hvalue, hevents, hmiddle⟩ := hfirst state other hstate
  obtain ⟨hresult, hlater, hend⟩ := hnext (first.run state).value _ _ hmiddle
  rw [hvalue] at hresult hlater hend
  simp only [Action.run_bind, hevents, hvalue]
  exact ⟨hresult, by rw [hlater], hend⟩

end Action.Related

namespace Call.Related

theorem pure (value : α) : Call.Related S (Pure.pure value : Call σ α) (Pure.pure value) :=
  fun _ => Action.Related.pure _

theorem fail (kind : ErrorKind) (message : String) :
    Call.Related S (Call.fail kind message : Call σ Unit) (Call.fail kind message) :=
  fun _ => Action.Related.pure _

theorem get : Call.Related S (MonadState.get : Call σ ErrorReport) MonadState.get :=
  fun _ => Action.Related.pure _

theorem emit (event : Event) :
    Call.Related S (Call.emit event : Call σ Unit) (Call.emit event) :=
  fun _ _ _ hstate => ⟨rfl, rfl, hstate⟩

theorem bind {first : Call σ α} {second : Call τ α} {next : α → Call σ γ} {after : α → Call τ γ}
    (hfirst : Call.Related S first second)
    (hnext : ∀ value, Call.Related S (next value) (after value)) :
    Call.Related S (first >>= next) (second >>= after) :=
  fun report => Action.Related.bind (hfirst report) fun answer => hnext answer.1 answer.2

theorem forward [Inhabited α] (op : Operation) (implementation : Option ι) {call : ι → Call σ α}
    {other : ι → Call τ α} (hcall : ∀ target, Call.Related S (call target) (other target)) :
    Call.Related S (Call.forward op implementation call)
      (Call.forward op implementation other) := by
  intro report
  cases implementation with
  | some target =>
    exact Action.Related.bind (Action.Related.emit (.forwarding op)) fun _ =>
      hcall target .success
  | none =>
    exact Action.Related.bind (Action.Related.emit (.withoutImplementation op)) fun _ =>
      Action.Related.pure _

theorem raise {first : Call σ α} {second : Call τ α} (hcall : Call.Related S first second) :
    Attempt.Related S first.raise second.raise :=
  Action.Related.bind (hcall .success) fun _ => Action.Related.pure _

end Call.Related

namespace Attempt.Related

theorem pure (value : α) : Attempt.Related S (Pure.pure value : Attempt σ α) (Pure.pure value) :=
  Action.Related.pure _

theorem bind {first : Attempt σ α} {second : Attempt τ α} {next : α → Attempt σ γ}
    {after : α → Attempt τ γ} (hfirst : Attempt.Related S first second)
    (hnext : ∀ value, Attempt.Related S (next value) (after value)) :
    Attempt.Related S (first >>= next) (second >>= after) := by
  refine Action.Related.bind hfirst fun result => ?_
  cases result with
  | ok value => exact hnext value
  | error error => exact Action.Related.pure _

end Attempt.Related

section Facades

variable [Sessions ι σ] [Sessions ι τ] [Backends β ι σ] [Backends β ι τ]

/-- Both states answer alike when a session is asked and when one is started. -/
structure Corresponding (S : σ → τ → Prop) (β ι : Type) [Sessions ι σ] [Sessions ι τ]
    [Backends β ι σ] [Backends β ι τ] : Prop where
  perform : ∀ (session : ι) (op : SessionOp),
    Call.Related S (Sessions.perform session op) (Sessions.perform session op)
  start : ∀ (backend : β) (thread : ThreadId) (options : TxOptions),
    Call.Related S (Backends.start backend thread options)
      (Backends.start backend thread options)

namespace Corresponding

theorem attempt (hS : Corresponding S β ι) (tx : Transaction ι) (op : SessionOp) :
    Attempt.Related S (tx.attempt op) (tx.attempt op) :=
  Call.Related.raise (Call.Related.forward _ _ fun session => hS.perform session op)

theorem callStartWith (hS : Corresponding S β ι) (txs : Transactions β) (thread : ThreadId)
    (options : TxOptions) :
    Call.Related S (txs.callStartWith thread options) (txs.callStartWith thread options) := by
  refine Call.Related.forward _ _ fun backend => ?_
  refine Call.Related.bind (Call.Related.emit _) fun _ => ?_
  refine Call.Related.bind (hS.start backend thread options) fun session? => ?_
  refine Call.Related.bind Call.Related.get fun report => ?_
  split
  · exact Call.Related.bind (Call.Related.fail _ _) fun _ => Call.Related.pure _
  · exact Call.Related.pure _

theorem settle (hS : Corresponding S β ι) (tx : Transaction ι)
    (result : Except TransactionError α) :
    Attempt.Related S (Transactions.settle tx result) (Transactions.settle tx result) := by
  cases result with
  | ok value =>
    exact Attempt.Related.bind (hS.attempt tx .commit) fun _ => Attempt.Related.pure _
  | error error =>
    refine Action.Related.bind (hS.attempt tx .rollback) fun undone => ?_
    cases undone with
    | ok => exact Action.Related.pure _
    | error rollbackError =>
      exact Action.Related.bind (Action.Related.emit _) fun _ => Action.Related.pure _

/-- A transaction with a body keeps states in correspondence if its body does. -/
theorem transactWith (hS : Corresponding S β ι) (txs : Transactions β) (thread : ThreadId)
    (options : TxOptions) {body : Transaction ι → Attempt σ α}
    {other : Transaction ι → Attempt τ α}
    (hbody : ∀ tx, Attempt.Related S (body tx) (other tx)) :
    Attempt.Related S (txs.transactWith thread options body)
      (txs.transactWith thread options other) := by
  have hstart := Call.Related.raise (hS.callStartWith txs thread options)
  refine Attempt.Related.bind hstart fun tx => ?_
  refine Action.Related.bind (hbody tx) fun result => ?_
  refine Action.Related.bind (hS.settle tx result) fun settled => ?_
  exact Action.Related.bind (hS.attempt tx .close) fun closed => Action.Related.pure _

end Corresponding

end Facades

end TxClient
