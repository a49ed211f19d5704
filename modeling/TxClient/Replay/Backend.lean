import TxClient.Replay.Session

namespace TxClient.Replay

/-- What a backend was asked. -/
inductive BackendCall where
  | start (options : TxOptions)
  | current
  | metrics
  | resetMetrics
  deriving DecidableEq, Repr

/-- A backend that does not run anything: it gives prepared answers, each with a report to fill in
or none, and notes what it is asked. When the answers to a question are used up it gives nothing
and leaves the report as it is. -/
structure Backend (ι : Type) where
  starts : List (Option ι × Option ErrorReport)
  currents : List (Option ι × Option ErrorReport)
  metrics : List (Metrics × Option ErrorReport)
  resets : List (Option ErrorReport)
  /-- What it was asked so far, in order. -/
  calls : List BackendCall

namespace Backend

variable {ι : Type}

instance : Inhabited (Backend ι) := ⟨⟨[], [], [], [], []⟩⟩

def note (call : BackendCall) : Call (Backend ι) Unit :=
  Call.change fun backend => { backend with calls := backend.calls ++ [call] }

/-- The next of the prepared answers, if any is left. -/
def answer {α : Type} [Inhabited α] (prepared : List (α × Option ErrorReport)) :
    Call (Backend ι) α := do
  match prepared with
  | [] => return default
  | (value, report) :: _ => do
    Session.report (some report)
    return value

def start (options : TxOptions) : Call (Backend ι) (Option ι) := do
  let backend ← Call.look
  note (.start options)
  Call.change fun backend => { backend with starts := backend.starts.tail }
  answer backend.starts

def current : Call (Backend ι) (Option ι) := do
  let backend ← Call.look
  note .current
  Call.change fun backend => { backend with currents := backend.currents.tail }
  answer backend.currents

def readMetrics : Call (Backend ι) Metrics := do
  let backend ← Call.look
  note .metrics
  Call.change fun backend => { backend with metrics := backend.metrics.tail }
  answer backend.metrics

def resetMetrics : Call (Backend ι) Unit := do
  let backend ← Call.look
  note .resetMetrics
  Call.change fun backend => { backend with resets := backend.resets.tail }
  Session.report backend.resets.head?

end Backend

end TxClient.Replay
