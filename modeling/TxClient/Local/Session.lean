import TxClient.Implementation
import TxClient.Local.World

namespace TxClient.Local

def closedMessage (id : SessionId) : String :=
  "transaction " ++ id.display ++ " is closed"

def inactiveMessage (id : SessionId) (state : TxState) : String :=
  "transaction " ++ id.display ++ " is no longer active (state: " ++ state.display ++ ")"

def timedOutMessage (id : SessionId) (timeout : Duration) : String :=
  "transaction " ++ id.display ++ " timed out after " ++ toString timeout.wholeMillis
    ++ "ms and was rolled back"

def rolledBackMessage (id : SessionId) : String :=
  "transaction " ++ id.display ++ " was marked rollback-only and has been rolled back"

def moveTo (id : SessionId) (source target : TxState) : Call World Unit := do
  Call.emit (.stateChange id source target)
  Call.change (·.modifySession id fun session => { session with state := target })

/-- Record that a session has come to its end, and release its thread, as long as its backend is
there. -/
def finish (id : SessionId) (session : Session) (ending : Ending) : Call World Unit :=
  Call.change fun world =>
    match world.backend? session.backend with
    | some backend =>
      if backend.live then
        world.modifyBackend session.backend fun backend =>
          { backend with
            metrics := backend.metrics.record ending world.calendar
            bound := backend.bound.release session.thread id }
      else world
    | none => world

/-- Commit a session that is still running. One that was marked, or that has used up its time, is
rolled back instead. -/
def commit (id : SessionId) (session : Session) : Call World Unit := do
  if session.closed then Call.fail .illegalState (closedMessage id)
  else
    match session.state with
    | .active =>
      if session.isTimedOut (← Call.look).stopwatch then
        moveTo id .active .rolledBack
        Call.emit (.timedOut id)
        Call.fail .txTimeout (timedOutMessage id session.options.timeout)
        finish id session .rollback
      else
        moveTo id .active .committed
        finish id session .commit
    | .markedRollbackOnly =>
      moveTo id .markedRollbackOnly .rolledBack
      Call.fail .txRollback (rolledBackMessage id)
      finish id session .rollback
    | state => Call.fail .illegalState (inactiveMessage id state)

/-- Roll back a session. One that has been rolled back already stays so, without a failure. -/
def rollback (id : SessionId) (session : Session) : Call World Unit := do
  if session.closed then Call.fail .illegalState (closedMessage id)
  else
    match session.state with
    | .active | .markedRollbackOnly =>
      moveTo id session.state .rolledBack
      finish id session .rollback
    | .rolledBack => return
    | state => Call.fail .illegalState (inactiveMessage id state)

/-- Give up a session. One that is still running is rolled back. -/
def close (id : SessionId) (session : Session) : Call World Unit := do
  if session.closed then return
  Call.change (·.modifySession id fun session => { session with closed := true })
  if session.state.isActive then
    moveTo id session.state .rolledBack
    finish id session .rollback

/-- Mark a session that is still running, so that it can only be rolled back. -/
def setRollbackOnly (id : SessionId) (session : Session) : Call World Unit := do
  if session.closed then Call.fail .illegalState (closedMessage id)
  else
    match session.state with
    | .active => moveTo id .active .markedRollbackOnly
    | .markedRollbackOnly => return
    | state => Call.fail .illegalState (inactiveMessage id state)

/-- Carry out an operation on a session that is as described. -/
def performOn (id : SessionId) (session : Session) : (op : SessionOp) → Call World op.Result
  | .commit => commit id session
  | .rollback => rollback id session
  | .close => close id session
  | .setRollbackOnly => setRollbackOnly id session
  | .isRollbackOnly => pure session.state.isRollbackOnly
  | .state => pure session.state

/-- Carry out an operation on a session. A number that no session has been given names nothing, and
nothing happens. -/
def perform (id : SessionId) (op : SessionOp) : Call World op.Result := do
  match (← Call.look).session? id with
  | none => return op.noResult
  | some session => performOn id session op

instance : Sessions SessionId World where
  perform := perform

end TxClient.Local
