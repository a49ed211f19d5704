import TxClient.Local.Bindings
import TxClient.Metrics.Basic
import TxClient.Options
import TxClient.State

namespace TxClient.Local

/-- A transaction that is run in the process itself. -/
structure Session where
  options : TxOptions
  /-- The thread that started it, which need not be the one that finishes it. -/
  thread : ThreadId
  backend : BackendId
  /-- What the stopwatch showed when it was started. -/
  startedAt : Nat
  state : TxState
  /-- The session has been given up; only its state can still be asked for. -/
  closed : Bool
  deriving DecidableEq, Repr

/-- What a backend keeps of its sessions. -/
structure Backend where
  bound : Bindings
  metrics : Metrics
  /-- Somebody still refers to the backend. The sessions of a backend that is gone go on, but
  nothing is recorded of them. -/
  live : Bool
  deriving DecidableEq, Repr

/-- All the local backends and their sessions, numbered in the order in which they came into
being. -/
structure World where
  sessions : Array Session
  backends : Array Backend
  /-- Nanoseconds that have passed. It never goes back. -/
  stopwatch : Nat
  /-- The time of day, which may be set to anything at any time. -/
  calendar : Timestamp
  deriving DecidableEq, Repr

/-- The transaction may time out, and more time than it was given has passed. -/
def Session.isTimedOut (session : Session) (stopwatch : Nat) : Bool :=
  session.options.hasTimeout && session.options.timeout.nanos < stopwatch - session.startedAt

/-- The session as a reader inspects it. The time at which it was started is not shown. -/
def Session.debugText (session : Session) (id : SessionId) : String :=
  Text.record "LocalSession"
    [("id", id.display), ("options", session.options.debugText), ("started_at", "<started_at>"),
      ("state",
        Text.record "SessionState"
          [("state", session.state.debugText), ("closed", Text.truth session.closed)])]

def Backend.activeCount (backend : Backend) : Nat :=
  backend.bound.count

def Backend.debugText (backend : Backend) : String :=
  Text.record "LocalBackend" [("active_count", toString backend.activeCount)]

namespace World

/-- Nothing has happened yet. -/
def initial : World :=
  ⟨#[], #[], 0, .epoch⟩

instance : Inhabited World := ⟨initial⟩

def session? (world : World) (id : SessionId) : Option Session :=
  world.sessions[id.serial]?

def backend? (world : World) (id : BackendId) : Option Backend :=
  world.backends[id.serial]?

def modifySession (world : World) (id : SessionId) (change : Session → Session) : World :=
  { world with sessions := world.sessions.modify id.serial change }

def modifyBackend (world : World) (id : BackendId) (change : Backend → Backend) : World :=
  { world with backends := world.backends.modify id.serial change }

def nextSession (world : World) : SessionId :=
  ⟨world.sessions.size⟩

def nextBackend (world : World) : BackendId :=
  ⟨world.backends.size⟩

/-- A new session, which has not been bound to its thread yet. -/
def addSession (world : World) (session : Session) : World :=
  { world with sessions := world.sessions.push session }

def addBackend (world : World) : World :=
  { world with backends := world.backends.push ⟨.empty, .empty, true⟩ }

/-- Nobody refers to the backend any more. -/
def retire (world : World) (id : BackendId) : World :=
  world.modifyBackend id fun backend => { backend with live := false }

/-- Let the given number of nanoseconds pass. -/
def passTime (world : World) (nanos : Nat) : World :=
  { world with stopwatch := world.stopwatch + nanos }

def setCalendar (world : World) (time : Timestamp) : World :=
  { world with calendar := time }

/-- A world has nothing but its sessions, its backends and its clocks. -/
@[ext]
theorem ext {world other : World} (hsessions : ∀ id, world.session? id = other.session? id)
    (hbackends : ∀ id, world.backend? id = other.backend? id)
    (hstopwatch : world.stopwatch = other.stopwatch) (hcalendar : world.calendar = other.calendar) :
    world = other := by
  obtain ⟨sessions, backends, stopwatch, calendar⟩ := world
  obtain ⟨otherSessions, otherBackends, _, _⟩ := other
  have hs : sessions = otherSessions := Array.ext_getElem? fun index => hsessions ⟨index⟩
  have hb : backends = otherBackends := Array.ext_getElem? fun index => hbackends ⟨index⟩
  subst hs hb hstopwatch hcalendar
  rfl

@[simp] theorem calendar_modifySession (world : World) (id : SessionId)
    (change : Session → Session) : (world.modifySession id change).calendar = world.calendar := rfl

@[simp] theorem session?_modifyBackend (world : World) (id : BackendId)
    (change : Backend → Backend) : (world.modifyBackend id change).session? = world.session? := rfl

@[simp] theorem backend?_modifySession (world : World) (id : SessionId)
    (change : Session → Session) : (world.modifySession id change).backend? = world.backend? := rfl

@[simp] theorem backend?_addSession (world : World) (session : Session) :
    (world.addSession session).backend? = world.backend? := rfl

@[simp] theorem session?_addBackend (world : World) : world.addBackend.session? = world.session? :=
  rfl

theorem session?_modifySession (world : World) (id other : SessionId)
    (change : Session → Session) :
    (world.modifySession id change).session? other =
      if other = id then (world.session? other).map change else world.session? other := by
  simp only [session?, modifySession, Array.getElem?_modify, SessionId.ext_iff, eq_comm]

theorem backend?_modifyBackend (world : World) (id other : BackendId)
    (change : Backend → Backend) :
    (world.modifyBackend id change).backend? other =
      if other = id then (world.backend? other).map change else world.backend? other := by
  simp only [backend?, modifyBackend, Array.getElem?_modify, BackendId.ext_iff, eq_comm]

theorem session?_addSession (world : World) (session : Session) (id : SessionId) :
    (world.addSession session).session? id =
      if id = world.nextSession then some session else world.session? id := by
  simp only [session?, addSession, nextSession, Array.getElem?_push, SessionId.ext_iff]

theorem backend?_addBackend (world : World) (id : BackendId) :
    world.addBackend.backend? id =
      if id = world.nextBackend then some ⟨.empty, .empty, true⟩ else world.backend? id := by
  simp only [backend?, addBackend, nextBackend, Array.getElem?_push, BackendId.ext_iff]

end World

end TxClient.Local
