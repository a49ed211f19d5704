import TxClient.Implementation

namespace TxClient.Replay

/-- A session that does not run anything: it gives prepared answers and notes what it is asked. -/
structure Session where
  rollbackOnly : Bool
  /-- The states to answer, one for each time; the last one is repeated. -/
  states : List TxState
  /-- For each operation, the reports to fill in, one for each time. Where there is none, or none
  any more, the report is left as it is. -/
  outcomes : SessionOp → List (Option ErrorReport)
  /-- What it was asked so far, in order. -/
  calls : List SessionOp

namespace Session

instance : Inhabited Session := ⟨⟨false, [], fun _ => [], []⟩⟩

def state (session : Session) : TxState :=
  session.states.headD .unknown

def afterState (session : Session) : Session :=
  match session.states with
  | _ :: next :: rest => { session with states := next :: rest }
  | _ => session

def afterCall (session : Session) (op : SessionOp) : Session :=
  { session with
    calls := session.calls ++ [op]
    outcomes := fun other =>
      if other = op then (session.outcomes op).tail else session.outcomes other }

def report {σ : Type} (outcome : Option (Option ErrorReport)) : Call σ Unit :=
  match outcome with
  | some (some report) => set report
  | _ => return

/-- Give the prepared answer to an operation. The answer counts even when a failure is reported. -/
def answer (session : Session) : (op : SessionOp) → Call Session op.Result
  | .isRollbackOnly => pure session.rollbackOnly
  | .state => do
    Call.change afterState
    pure session.state
  | .commit | .rollback | .close | .setRollbackOnly => pure ()

def perform (op : SessionOp) : Call Session op.Result := do
  let session ← Call.look
  Call.change (·.afterCall op)
  report (session.outcomes op).head?
  answer session op

end Session

end TxClient.Replay
