import TxClient.Transactions

/-!
Relations between the state that an action finds, the events that it causes and the
state that it leaves. One that holds over the implementation holds over all the calls
that are made through handles and facades, as long as it pays no heed to the events that
these cause themselves.
-/

namespace TxClient

variable {σ β ι α γ : Type}

/-- The session that an event is about. -/
def Event.tx? : Event → Option SessionId
  | .started tx | .stateChange tx .. | .timedOut tx => some tx
  | .forwarding _ | .withoutImplementation _ | .starting .. | .rollbackFailed _ => none

/-- What the warnings in a log say, with the fields that go with them. -/
def warnings (log : List Event) : List (String × List (String × FieldValue)) :=
  (log.filter (·.level == .warn)).map fun event => (event.message, event.fields)

/-- A relation between states, by way of events, that is made up of pieces. Events that
are about no session may come in anywhere. -/
structure Tracing (P : σ → List Event → σ → Prop) : Prop where
  idle : ∀ {events : List Event} (state : σ), (∀ event ∈ events, event.tx? = none) →
    P state events state
  trans : ∀ {first middle last : σ} {events more : List Event},
    P first events middle → P middle more last → P first (events ++ more) last

/-- The action goes along with the relation, wherever it begins. -/
def Action.Traced (P : σ → List Event → σ → Prop) (action : Action σ α) : Prop :=
  ∀ state, P state (action.run state).events (action.run state).state

/-- The call goes along with the relation, whatever its report holds. -/
def Call.Traced (P : σ → List Event → σ → Prop) (call : Call σ α) : Prop :=
  ∀ report, Action.Traced P (call.run report)

def Attempt.Traced (P : σ → List Event → σ → Prop) (attempt : Attempt σ α) : Prop :=
  Action.Traced P attempt.run

variable {P : σ → List Event → σ → Prop}

namespace Tracing

theorem pure (hP : Tracing P) (value : α) : Action.Traced P (Pure.pure value) :=
  fun state => hP.idle state nofun

theorem emit (hP : Tracing P) {event : Event} (hevent : event.tx? = none) :
    Action.Traced P (Action.emit event) :=
  fun state => hP.idle state (List.forall_mem_singleton.2 hevent)

theorem bind (hP : Tracing P) {action : Action σ α} {next : α → Action σ γ}
    (haction : Action.Traced P action) (hnext : ∀ value, Action.Traced P (next value)) :
    Action.Traced P (action >>= next) := by
  intro state
  rw [Action.run_bind]
  exact hP.trans (haction state) (hnext _ _)

theorem callBind (hP : Tracing P) {call : Call σ α} {next : α → Call σ γ}
    (hcall : Call.Traced P call) (hnext : ∀ value, Call.Traced P (next value)) :
    Call.Traced P (call >>= next) :=
  fun report => hP.bind (hcall report) fun answer => hnext answer.1 answer.2

theorem forward [Inhabited α] (hP : Tracing P) (op : Operation) (implementation : Option ι)
    {call : ι → Call σ α} (hcall : ∀ target, Call.Traced P (call target)) :
    Call.Traced P (Call.forward op implementation call) := by
  intro report
  cases implementation with
  | some target => exact hP.bind (hP.emit rfl) fun _ => hcall target .success
  | none => exact hP.bind (hP.emit rfl) fun _ => hP.pure _

theorem raise (hP : Tracing P) {call : Call σ α} (hcall : Call.Traced P call) :
    Attempt.Traced P call.raise :=
  hP.bind (hcall .success) fun _ => hP.pure _

theorem attemptBind (hP : Tracing P) {attempt : Attempt σ α} {next : α → Attempt σ γ}
    (hattempt : Attempt.Traced P attempt) (hnext : ∀ value, Attempt.Traced P (next value)) :
    Attempt.Traced P (attempt >>= next) := by
  refine hP.bind hattempt fun result => ?_
  cases result with
  | ok value => exact hnext value
  | error error => exact hP.pure _

end Tracing

section Facades

variable [Sessions ι σ] [Backends β ι σ]

/-- The implementation goes along with the relation when a session is asked and when one
is started. -/
structure TracedBy (P : σ → List Event → σ → Prop) (β ι : Type) [Sessions ι σ]
    [Backends β ι σ] : Prop extends Tracing P where
  perform : ∀ (session : ι) (op : SessionOp), Call.Traced P (Sessions.perform session op)
  start : ∀ (backend : β) (thread : ThreadId) (options : TxOptions),
    Call.Traced P (Backends.start backend thread options)

namespace TracedBy

theorem attempt (hP : TracedBy P β ι) (tx : Transaction ι) (op : SessionOp) :
    Attempt.Traced P (tx.attempt op) :=
  hP.raise (hP.forward _ _ fun session => hP.perform session op)

theorem callStartWith (hP : TracedBy P β ι) (txs : Transactions β) (thread : ThreadId)
    (options : TxOptions) : Call.Traced P (txs.callStartWith thread options) := by
  refine hP.forward _ _ fun backend => ?_
  refine hP.callBind (fun _ => hP.emit rfl) fun _ => ?_
  refine hP.callBind (hP.start backend thread options) fun session? => ?_
  refine hP.callBind (fun _ => hP.pure _) fun report => ?_
  split
  · exact hP.callBind (fun _ => hP.pure _) fun _ => fun _ => hP.pure _
  · exact fun _ => hP.pure _

theorem settle (hP : TracedBy P β ι) (tx : Transaction ι) (result : Except TransactionError α) :
    Attempt.Traced P (Transactions.settle tx result) := by
  cases result with
  | ok value => exact hP.attemptBind (hP.attempt tx .commit) fun _ => hP.pure _
  | error error =>
    refine hP.bind (hP.attempt tx .rollback) fun undone => ?_
    cases undone with
    | ok => exact hP.pure _
    | error rollbackError => exact hP.bind (hP.emit rfl) fun _ => hP.pure _

/-- A transaction with a body goes along with the relation if its body does. -/
theorem transactWith (hP : TracedBy P β ι) (txs : Transactions β) (thread : ThreadId)
    (options : TxOptions) {body : Transaction ι → Attempt σ α}
    (hbody : ∀ tx, Attempt.Traced P (body tx)) :
    Attempt.Traced P (txs.transactWith thread options body) := by
  refine hP.attemptBind (hP.raise (hP.callStartWith txs thread options)) fun tx => ?_
  refine hP.bind (hbody tx) fun result => ?_
  refine hP.bind (hP.settle tx result) fun settled => ?_
  exact hP.bind (hP.attempt tx .close) fun closed => hP.pure _

end TracedBy

end Facades

end TxClient
