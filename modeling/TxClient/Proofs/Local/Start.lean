import TxClient.Local.Backend

namespace TxClient.Local

/-- The session that a backend starts for a thread. -/
def World.fresh (world : World) (id : BackendId) (thread : ThreadId) (options : TxOptions) :
    Session :=
  ⟨options, thread, id, world.stopwatch, .active, false⟩

/-- Start a session and bind it to its thread. -/
def World.enroll (world : World) (id : BackendId) (thread : ThreadId) (options : TxOptions) :
    World :=
  (world.addSession (world.fresh id thread options)).modifyBackend id fun backend =>
    { backend with bound := backend.bound.insert thread world.nextSession }

namespace World

theorem session?_enroll (world : World) (id : BackendId) (thread : ThreadId) (options : TxOptions)
    (other : SessionId) :
    (world.enroll id thread options).session? other =
      if other = world.nextSession then some (world.fresh id thread options)
      else world.session? other := by
  simp [enroll, session?_addSession]

theorem backend?_enroll (world : World) (id : BackendId) (thread : ThreadId) (options : TxOptions)
    (other : BackendId) :
    (world.enroll id thread options).backend? other =
      if other = id then
        (world.backend? other).map fun backend =>
          { backend with bound := backend.bound.insert thread world.nextSession }
      else world.backend? other := by
  simp [enroll, backend?_modifyBackend]

@[simp] theorem backend?_nextBackend (world : World) : world.backend? world.nextBackend = none := by
  simp [backend?, nextBackend]

@[simp] theorem session?_nextSession (world : World) : world.session? world.nextSession = none := by
  simp [session?, nextSession]

end World

/-- Backends are referred to by their numbers. -/
theorem backends_start (id : BackendId) (thread : ThreadId) (options : TxOptions) :
    (Backends.start id thread options : Call World (Option SessionId)) =
      start id thread options := rfl

section Start

variable {world : World} {id : BackendId} {backend : Backend} {thread : ThreadId}

/-- A thread without an unfinished session gets a new one. -/
theorem run_start_of_free (hbackend : world.backend? id = some backend)
    (hfree : backend.bound.find? thread = none) (options : TxOptions) (report : ErrorReport) :
    ((start id thread options).run report).run world =
      ⟨(some world.nextSession, report), world.enroll id thread options,
        [.started world.nextSession]⟩ := by
  simp [start, hbackend, hfree, World.enroll, World.fresh]

/-- A thread that has an unfinished session is refused, with the number of that
session in the message. -/
theorem run_start_of_bound (hbackend : world.backend? id = some backend) {existing : SessionId}
    (hbound : backend.bound.find? thread = some existing) (options : TxOptions)
    (report : ErrorReport) :
    ((start id thread options).run report).run world =
      ⟨(none, ⟨.illegalState, alreadyStartedMessage existing⟩), world, []⟩ := by
  simp [start, hbackend, hbound]

theorem run_start_of_none (hbackend : world.backend? id = none) (options : TxOptions)
    (report : ErrorReport) :
    ((start id thread options).run report).run world = ⟨(none, report), world, []⟩ := by
  simp [start, hbackend]

end Start

end TxClient.Local
