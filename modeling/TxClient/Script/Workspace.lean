import TxClient.Local.Backend
import TxClient.Replay.Backend
import TxClient.Script.Slots
import TxClient.Script.Step
import TxClient.Transactions

namespace TxClient.Script

inductive SessionRef where
  | localSession (id : SessionId)
  | replayed (index : Nat)
  deriving DecidableEq, Repr

inductive BackendRef where
  | localBackend (id : BackendId)
  | replayed (index : Nat)
  deriving DecidableEq, Repr

/-- The number of the session, if it is a local one. -/
def SessionRef.localId? : SessionRef → Option SessionId
  | localSession id => some id
  | replayed _ => none

structure Workspace (ρ : Type) where
  world : Local.World
  sessionDoubles : Array Replay.Session
  backendDoubles : Array (Replay.Backend SessionRef)
  handles : Slots (Transaction SessionRef)
  facades : Slots (Transactions BackendRef)
  locals : Slots BackendId
  sessions : Slots Nat
  backends : Slots Nat
  reports : Slots ErrorReport
  /-- The backends of the transactions that are running a body. -/
  inUse : List BackendRef
  /-- The answers in the body that was run last. -/
  body? : Option (List (Answer ρ))

namespace Workspace

variable {ρ α : Type}

def initial : Workspace ρ where
  world := .initial
  sessionDoubles := #[]
  backendDoubles := #[]
  handles := .empty
  facades := .empty
  locals := .empty
  sessions := .empty
  backends := .empty
  reports := .empty
  inUse := []
  body? := none

def onWorld [Inhabited α] (call : Call Local.World α) : Call (Workspace ρ) α :=
  call.onPart (some ·.world) fun world space => { space with world }

def onSession [Inhabited α] (index : Nat) (call : Call Replay.Session α) :
    Call (Workspace ρ) α :=
  call.onPart (·.sessionDoubles[index]?) fun session space =>
    { space with sessionDoubles := space.sessionDoubles.setIfInBounds index session }

def onBackend [Inhabited α] (index : Nat) (call : Call (Replay.Backend SessionRef) α) :
    Call (Workspace ρ) α :=
  call.onPart (·.backendDoubles[index]?) fun backend space =>
    { space with backendDoubles := space.backendDoubles.setIfInBounds index backend }

instance : Sessions SessionRef (Workspace ρ) where
  perform
    | .localSession id, op => onWorld (Local.perform id op)
    | .replayed index, op => onSession index (Replay.Session.perform op)

instance : Backends BackendRef SessionRef (Workspace ρ) where
  start
    | .localBackend id, thread, options =>
      (Option.map .localSession) <$> onWorld (Local.start id thread options)
    | .replayed index, _, options => onBackend index (Replay.Backend.start options)
  current
    | .localBackend id, thread =>
      (Option.map .localSession) <$> onWorld (Local.current id thread)
    | .replayed index, _ => onBackend index Replay.Backend.current
  metrics
    | .localBackend id => onWorld (Local.metrics id)
    | .replayed index => onBackend index Replay.Backend.readMetrics
  resetMetrics
    | .localBackend id => onWorld (Local.resetMetrics id)
    | .replayed index => onBackend index Replay.Backend.resetMetrics

/-- Somebody still refers to the local backend. -/
def refersTo (space : Workspace ρ) (id : BackendId) : Bool :=
  space.locals.any (· == id) || space.facades.any (·.backend? == some (.localBackend id)) ||
    space.inUse.contains (.localBackend id)

/-- The local backends that nobody refers to any more are gone. -/
def retireUnused (space : Workspace ρ) : Workspace ρ :=
  let ids := (List.range space.world.backends.size).map BackendId.mk
  { space with
    world := (ids.filter fun id => !space.refersTo id).foldl .retire space.world }

/-- The session that a name stands for: a prepared one, or else that of a handle. -/
def sessionNamed? (space : Workspace ρ) (name : String) : Option (Option SessionRef) :=
  match space.sessions.get? name with
  | some index => some (some (.replayed index))
  | none => (space.handles.get? name).map (·.session?)

/-- The backend that a name stands for: a local one, or else a prepared one. -/
def backendNamed? (space : Workspace ρ) (name : String) : Option BackendRef :=
  match space.locals.get? name with
  | some id => some (.localBackend id)
  | none => (space.backends.get? name).map .replayed

end Workspace

end TxClient.Script
