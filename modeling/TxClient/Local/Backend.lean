import TxClient.Local.Session

namespace TxClient.Local

def alreadyStartedMessage (id : SessionId) : String :=
  "a transaction has already been started by the current thread: " ++ id.display

/-- Start a session for a thread, unless the thread has an unfinished one. -/
def start (id : BackendId) (thread : ThreadId) (options : TxOptions) :
    Call World (Option SessionId) := do
  let world ← Call.look
  match world.backend? id with
  | none => return none
  | some backend =>
    match backend.bound.find? thread with
    | some existing =>
      Call.fail .illegalState (alreadyStartedMessage existing)
      return none
    | none =>
      let session := world.nextSession
      Call.change fun world =>
        world.addSession ⟨options, thread, id, world.stopwatch, .active, false⟩
      Call.change (·.modifyBackend id fun backend =>
        { backend with bound := backend.bound.insert thread session })
      Call.emit (.started session)
      return some session

/-- The unfinished session of a thread. -/
def current (id : BackendId) (thread : ThreadId) : Call World (Option SessionId) := do
  return ((← Call.look).backend? id).bind (·.bound.find? thread)

def metrics (id : BackendId) : Call World Metrics := do
  return (((← Call.look).backend? id).map (·.metrics)).getD .empty

def resetMetrics (id : BackendId) : Call World Unit :=
  Call.change (·.modifyBackend id fun backend => { backend with metrics := .empty })

instance : Backends BackendId SessionId World where
  start := start
  current := current
  metrics := metrics
  resetMetrics := resetMetrics

end TxClient.Local
