import TxClient.Action

namespace TxClient

/-- An operation in the form that fills the caller's report. The value counts even when the report
describes a failure. -/
abbrev Call (σ : Type) := StateT ErrorReport (Action σ)

/-- An operation in the form that raises its failure instead of giving a value. -/
abbrev Attempt (σ : Type) := ExceptT TransactionError (Action σ)

namespace Call

variable {σ τ α ι : Type}

/-- Put a failure into the report, over whatever it held. -/
def fail (kind : ErrorKind) (message : String) : Call σ Unit :=
  set (ErrorReport.mk kind message)

def emit (event : Event) : Call σ Unit :=
  StateT.lift (Action.emit event)

def look : Call σ σ :=
  StateT.lift Action.get

def change (f : σ → σ) : Call σ Unit :=
  StateT.lift (Action.modify f)

@[simp] theorem run_pure (value : α) (report : ErrorReport) (state : σ) :
    ((pure value : Call σ α).run report).run state = ⟨(value, report), state, []⟩ := rfl

@[simp] theorem run_fail (kind : ErrorKind) (message : String) (report : ErrorReport) (state : σ) :
    ((fail kind message : Call σ Unit).run report).run state =
      ⟨((), ⟨kind, message⟩), state, []⟩ := rfl

@[simp] theorem run_emit (event : Event) (report : ErrorReport) (state : σ) :
    ((emit event : Call σ Unit).run report).run state = ⟨((), report), state, [event]⟩ := rfl

@[simp] theorem run_look (report : ErrorReport) (state : σ) :
    ((look : Call σ σ).run report).run state = ⟨(state, report), state, []⟩ := rfl

@[simp] theorem run_change (f : σ → σ) (report : ErrorReport) (state : σ) :
    ((change f : Call σ Unit).run report).run state = ⟨((), report), f state, []⟩ := rfl

/-- A call on a part of the state. Without that part nothing happens, and the report stays. -/
def onPart [Inhabited α] (part? : τ → Option σ) (put : σ → τ → τ) (call : Call σ α) : Call τ α :=
  fun report => fun state =>
    match part? state with
    | none => ⟨(default, report), state, []⟩
    | some part =>
      let outcome := (call.run report).run part
      ⟨outcome.value, put outcome.state state, outcome.events⟩

/-- Pass an operation on to what a handle refers to. What the report held before does not matter:
the implementation finds a success in it. A handle that refers to nothing gives the default value
and a report that says so. -/
def forward [Inhabited α] (op : Operation) (implementation : Option ι) (call : ι → Call σ α) :
    Call σ α := do
  set ErrorReport.success
  match implementation with
  | some target =>
    emit (.forwarding op)
    call target
  | none =>
    emit (.withoutImplementation op)
    set ErrorReport.notUsable
    return default

/-- Raise the failure that a call leaves in its report. -/
def raise (call : Call σ α) : Attempt σ α := ExceptT.mk do
  let (value, report) ← call.run .success
  return report.raised.map fun () => value

end Call

end TxClient
