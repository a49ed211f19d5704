import Mathlib.Data.List.Nodup
import Mathlib.Data.Set.Function
import TxClient.Proofs.Local.Accounting

/-!
The sessions that a thread has started at a backend, in the order in which they were
started. What their numbers are depends on what happens elsewhere. But for these, and for
the times that are recorded, two worlds can be compared thread by thread: sessions that
stand at the same place are counterparts.
-/

namespace TxClient.Local

/-- A session but for the time at which it was started. -/
def Session.timeless (session : Session) : Session :=
  { session with startedAt := 0 }

def Session.isOf (session : Session) (id : BackendId) (thread : ThreadId) : Bool :=
  session.backend == id && session.thread == thread

namespace World

/-- The sessions that a thread has started at a backend, with their numbers. -/
def roll (world : World) (id : BackendId) (thread : ThreadId) : List (SessionId × Session) :=
  (List.range world.sessions.size).filterMap fun serial =>
    ((world.session? ⟨serial⟩).filter (·.isOf id thread)).map fun session => (⟨serial⟩, session)

/-- The numbers of the sessions that a thread has started at a backend. -/
def lane (world : World) (id : BackendId) (thread : ThreadId) : List SessionId :=
  (world.roll id thread).map Prod.fst

/-- The sessions that a thread has started at a backend, but for their numbers and times. -/
def held (world : World) (id : BackendId) (thread : ThreadId) : List Session :=
  (world.roll id thread).map fun entry => entry.2.timeless

section Roll

variable {world : World} {id : BackendId} {thread : ThreadId} {session : SessionId}
  {found : Session}

theorem mem_roll_iff :
    (session, found) ∈ world.roll id thread ↔
      world.session? session = some found ∧ found.backend = id ∧ found.thread = thread := by
  simp only [roll, List.mem_filterMap, List.mem_range, Option.map_eq_some_iff,
    Option.filter_eq_some_iff, Session.isOf, Bool.and_eq_true, beq_iff_eq, Prod.mk.injEq]
  constructor
  · rintro ⟨serial, -, entry, ⟨hentry, hof⟩, rfl, rfl⟩
    exact ⟨hentry, hof⟩
  · rintro ⟨hfound, hof⟩
    obtain ⟨hserial, -⟩ := Array.getElem?_eq_some_iff.1 hfound
    exact ⟨session.serial, hserial, found, ⟨hfound, hof⟩, rfl, rfl⟩

theorem mem_lane_iff : session ∈ world.lane id thread ↔ world.BelongsTo session id thread := by
  simp [lane, BelongsTo, mem_roll_iff]

theorem nodup_lane (world : World) (id : BackendId) (thread : ThreadId) :
    (world.lane id thread).Nodup := by
  rw [lane, roll, List.map_filterMap]
  refine List.Nodup.filterMap ?_ List.nodup_range
  intro first second session hfirst hsecond
  simp only [Option.map_map, Option.mem_def, Option.map_eq_some_iff, Function.comp_apply]
    at hfirst hsecond
  obtain ⟨-, -, rfl⟩ := hfirst
  obtain ⟨-, -, hsame⟩ := hsecond
  exact (congrArg SessionId.serial hsame).symm

theorem length_lane : (world.lane id thread).length = (world.held id thread).length := by
  rw [lane, held, List.length_map, List.length_map]

theorem lane_getElem?_iff {index : Nat} :
    (world.lane id thread)[index]? = some session ↔
      ∃ found, (world.roll id thread)[index]? = some (session, found) := by
  simp [lane]

theorem lane_getElem?_eq_none {index : Nat} (hentry : (world.roll id thread)[index]? = none) :
    (world.lane id thread)[index]? = none := by
  rw [lane, List.getElem?_map, hentry]
  rfl

theorem held_getElem? (index : Nat) :
    (world.held id thread)[index]? =
      ((world.roll id thread)[index]?).map fun entry => entry.2.timeless :=
  List.getElem?_map

/-- What stands in the roll is a session of the thread. -/
theorem of_roll_getElem? {index : Nat}
    (hentry : (world.roll id thread)[index]? = some (session, found)) :
    world.session? session = some found ∧ found.backend = id ∧ found.thread = thread :=
  mem_roll_iff.1 (List.mem_of_getElem? hentry)

/-- A session stands at one place only. -/
theorem roll_index_unique {again : Session} {index place : Nat}
    (hindex : (world.roll id thread)[index]? = some (session, found))
    (hplace : (world.roll id thread)[place]? = some (session, again)) : index = place := by
  have hlane := lane_getElem?_iff.2 ⟨found, hindex⟩
  have hlane' := lane_getElem?_iff.2 ⟨again, hplace⟩
  obtain ⟨hlength, -⟩ := List.getElem?_eq_some_iff.1 hlane
  exact (List.getElem?_inj hlength (world.nodup_lane id thread)).1 (hlane.trans hlane'.symm)

theorem exists_roll_getElem? (hfound : world.session? session = some found) :
    ∃ index : Nat, (world.roll found.backend found.thread)[index]? = some (session, found) :=
  List.mem_iff_getElem?.1 (mem_roll_iff.2 ⟨hfound, rfl, rfl⟩)

theorem roll_eq_of_sessions {other : World} (hsessions : other.sessions = world.sessions)
    (id : BackendId) (thread : ThreadId) : other.roll id thread = world.roll id thread := by
  have hsession (session : SessionId) : other.session? session = world.session? session := by
    rw [session?, hsessions]
    rfl
  simp only [roll, hsessions, hsession]

/-- A new session comes last. -/
theorem roll_enroll (world : World) (origin id : BackendId) (starter thread : ThreadId)
    (options : TxOptions) :
    (world.enroll origin starter options).roll id thread =
      world.roll id thread ++
        if origin = id ∧ starter = thread then
          [(world.nextSession, world.fresh origin starter options)]
        else [] := by
  have hsize : (world.enroll origin starter options).sessions.size = world.sessions.size + 1 :=
    Array.size_push _
  rw [roll, hsize, List.range_succ, List.filterMap_append]
  congr 1
  · refine List.filterMap_congr fun serial hserial => ?_
    have hold : (⟨serial⟩ : SessionId) ≠ world.nextSession := by
      intro hnew
      rw [List.mem_range, show serial = world.sessions.size from congrArg SessionId.serial hnew]
        at hserial
      exact Nat.lt_irrefl _ hserial
    rw [session?_enroll, if_neg hold]
  · have hnew : (world.enroll origin starter options).session? ⟨world.sessions.size⟩ =
        some (world.fresh origin starter options) := by
      rw [session?_enroll]
      exact if_pos rfl
    by_cases hof : origin = id ∧ starter = thread
    · have hkeep : (world.fresh origin starter options).isOf id thread = true := by
        simpa [Session.isOf, fresh] using hof
      simp only [List.filterMap_cons, List.filterMap_nil, hnew, Option.filter_some, hkeep, if_true,
        Option.map_some, if_pos hof]
      rfl
    · have hdrop : ¬ (world.fresh origin starter options).isOf id thread = true := by
        simpa [Session.isOf, fresh] using hof
      simp only [List.filterMap_cons, List.filterMap_nil, hnew, Option.filter_some, if_neg hdrop,
        Option.map_none, if_neg hof]

theorem lane_enroll (world : World) (id : BackendId) (thread : ThreadId) (options : TxOptions) :
    (world.enroll id thread options).lane id thread =
      world.lane id thread ++ [world.nextSession] := by
  rw [lane, roll_enroll, if_pos ⟨rfl, rfl⟩, List.map_append]
  rfl

theorem held_enroll (world : World) (id : BackendId) (thread : ThreadId) (options : TxOptions) :
    (world.enroll id thread options).held id thread =
      world.held id thread ++ [⟨options, thread, id, 0, .active, false⟩] := by
  rw [held, roll_enroll, if_pos ⟨rfl, rfl⟩, List.map_append]
  rfl

/-- An operation changes the session that was asked, where it stands. -/
theorem roll_respond (hfound : world.session? session = some found) (reaction : Reaction)
    (id : BackendId) (thread : ThreadId) :
    (world.respond session found reaction).roll id thread =
      (world.roll id thread).map fun entry =>
        if entry.1 = session then (session, found.after reaction) else entry := by
  have hsize : (world.respond session found reaction).sessions.size = world.sessions.size := by
    cases hending : reaction.ending? <;> simp [respond, hending, modifySession, modifyBackend]
  rw [roll, hsize, roll, List.map_filterMap]
  refine List.filterMap_congr fun serial _ => ?_
  rw [session?_respond]
  by_cases hsame : (⟨serial⟩ : SessionId) = session
  · rw [if_pos hsame, hsame, hfound]
    have hof : (found.after reaction).isOf id thread = found.isOf id thread := rfl
    cases hkeep : found.isOf id thread <;> simp [hof, hkeep, Option.filter]
  · rw [if_neg hsame]
    cases world.session? ⟨serial⟩ with
    | none => rfl
    | some other => cases hkeep : other.isOf id thread <;> simp [hkeep, hsame, Option.filter]

end Roll

/-- A thread's sessions stay where they are, and new ones come after them. -/
theorem Step.lane {world after : World} {request : Request} (hstep : Step world request after)
    (id : BackendId) (thread : ThreadId) : world.lane id thread <+: after.lane id thread := by
  have hsame (hsessions : after.sessions = world.sessions) :
      world.lane id thread <+: after.lane id thread := by
    rw [World.lane, World.lane, roll_eq_of_sessions hsessions]
  cases hstep with
  | started options =>
    rw [World.lane, World.lane, roll_enroll, List.map_append]
    exact List.prefix_append _ _
  | @asked asked found op hfound =>
    rw [World.lane, World.lane, roll_respond hfound, List.map_map]
    have hnames : (Prod.fst ∘ fun entry : SessionId × Session =>
        if entry.1 = asked then (asked, found.after
          (found.react asked (found.isTimedOut world.stopwatch) op)) else entry) = Prod.fst := by
      funext entry
      rw [Function.comp_apply]
      split
      · next hasked => exact hasked.symm
      · rfl
    rw [hnames]
  | around change =>
    refine hsame ?_
    cases change <;> rfl
  | reset => exact hsame rfl
  | refused | absent | current | metrics | unknown => exact hsame rfl

/-- What a live backend binds to a thread is its unfinished session, where it stands. -/
theorem Inv.find?_eq {world : World} (hinv : world.Inv) {id : BackendId} {backend : Backend}
    (hbackend : world.backend? id = some backend) (hlive : backend.live = true)
    (thread : ThreadId) :
    backend.bound.find? thread =
      ((world.held id thread).findIdx? (·.state.isActive)).bind
        fun index => (world.lane id thread)[index]? := by
  have hheld : (world.held id thread).findIdx? (·.state.isActive) =
      (world.roll id thread).findIdx? fun entry => entry.2.state.isActive := List.findIdx?_map
  have hfind : ((world.held id thread).findIdx? (·.state.isActive)).bind
        (fun index => (world.lane id thread)[index]?) =
      ((world.roll id thread).find? fun entry => entry.2.state.isActive).map Prod.fst := by
    rw [hheld, List.find?_eq_bind_findIdx?_getElem?, Option.map_bind]
    simp only [World.lane, List.getElem?_map]
    rfl
  have hbound (session : SessionId) : backend.bound.find? thread = some session ↔
      ∃ found, (session, found) ∈ world.roll id thread ∧ found.state.isActive = true := by
    rw [hinv.bound id backend hbackend hlive thread session, Unfinished]
    simp only [mem_roll_iff, and_assoc]
  rw [hfind]
  cases hentry : (world.roll id thread).find? fun entry => entry.2.state.isActive with
  | none =>
    rw [Option.map_none, Option.eq_none_iff_forall_ne_some]
    intro session hsession
    obtain ⟨found, hmem, hactive⟩ := (hbound session).1 hsession
    exact List.find?_eq_none.1 hentry _ hmem hactive
  | some entry =>
    have hactive := List.find?_some hentry
    exact (hbound entry.1).2 ⟨entry.2, List.mem_of_find?_eq_some hentry, hactive⟩

/-- A live backend binds something to a thread as long as the thread holds an unfinished
session. -/
theorem Inv.any_held {world : World} (hinv : world.Inv) {id : BackendId} {backend : Backend}
    (hbackend : world.backend? id = some backend) (hlive : backend.live = true)
    (thread : ThreadId) :
    (world.held id thread).any (·.state.isActive) = (backend.bound.find? thread).isSome := by
  rw [hinv.find?_eq hbackend hlive, ← List.findIdx?_isSome]
  cases hindex : (world.held id thread).findIdx? (·.state.isActive) with
  | none => rfl
  | some index =>
    obtain ⟨hlength, -⟩ := List.findIdx?_eq_some_iff_getElem.1 hindex
    rw [← length_lane] at hlength
    rw [Option.bind_some, List.getElem?_eq_getElem hlength]
    rfl

/-- Threads that hold alike sessions at a live backend are bound alike, so the backend
counts as many. -/
theorem Inv.activeCount_eq {world other : World} (hinv : world.Inv) (hother : other.Inv)
    {id : BackendId} {backend again : Backend} (hbackend : world.backend? id = some backend)
    (hlive : backend.live = true) (hagain : other.backend? id = some again)
    (hlive' : again.live = true)
    (hheld : ∀ thread, other.held id thread = world.held id thread) :
    again.activeCount = backend.activeCount := by
  have hbound {world : World} (hinv : world.Inv) {backend : Backend}
      (hbackend : world.backend? id = some backend) (hlive : backend.live = true)
      (thread : ThreadId) : thread ∈ backend.bound.entries.map Prod.fst ↔
        (world.held id thread).any (·.state.isActive) = true := by
    rw [hinv.any_held hbackend hlive, Option.isSome_iff_exists]
    simp [Bindings.find?_eq_some_iff]
  have hperm : (again.bound.entries.map Prod.fst).Perm (backend.bound.entries.map Prod.fst) := by
    rw [List.perm_ext_iff_of_nodup again.bound.distinct backend.bound.distinct]
    intro thread
    rw [hbound hother hagain hlive', hbound hinv hbackend hlive, hheld]
  have hlength := hperm.length_eq
  rwa [List.length_map, List.length_map] at hlength

/-- Two worlds agree about what a thread holds at a backend, but for times: the sessions
are alike, and go by the names that the renaming gives them. -/
structure Renames (world other : World) (id : BackendId) (thread : ThreadId)
    (rename : SessionId → SessionId) : Prop where
  held : other.held id thread = world.held id thread
  lane : other.lane id thread = (world.lane id thread).map rename

/-- The session of the other world that stands where the given one stands. -/
def counterpart (world other : World) (id : BackendId) (session : SessionId) : SessionId :=
  match world.session? session with
  | some found =>
    ((other.lane id found.thread)[(world.lane id found.thread).idxOf session]?).getD session
  | none => session

/-- Where a thread holds alike sessions, the counterparts of its sessions are their names
in the other world. -/
theorem renames_counterpart {world other : World} {id : BackendId} {thread : ThreadId}
    (hheld : other.held id thread = world.held id thread) :
    world.Renames other id thread (world.counterpart other id) := by
  refine ⟨hheld, ?_⟩
  have hlength : (other.lane id thread).length = (world.lane id thread).length := by
    rw [length_lane, length_lane, hheld]
  refine List.ext_getElem (by rw [List.length_map, hlength]) fun index hother hmap => ?_
  have hindex : index < (world.lane id thread).length := hlength ▸ hother
  rw [List.getElem_map]
  obtain ⟨found, hentry⟩ := lane_getElem?_iff.1 (List.getElem?_eq_getElem hindex)
  obtain ⟨hfound, -, hthread⟩ := of_roll_getElem? hentry
  rw [counterpart, hfound]
  simp only [hthread, (world.nodup_lane id thread).idxOf_getElem, List.getElem?_eq_getElem hother,
    Option.getD_some]

namespace Renames

variable {world other : World} {id : BackendId} {thread : ThreadId}
  {rename : SessionId → SessionId}

/-- Earlier on the sessions had the names that they have later. -/
theorem of_prefix {later last : World} (hrenames : later.Renames last id thread rename)
    (hheld : other.held id thread = world.held id thread)
    (hworld : world.lane id thread <+: later.lane id thread)
    (hother : other.lane id thread <+: last.lane id thread) :
    world.Renames other id thread rename := by
  refine ⟨hheld, ?_⟩
  have hlength : (other.lane id thread).length = (world.lane id thread).length := by
    rw [length_lane, length_lane, hheld]
  rw [List.prefix_iff_eq_take.1 hother, hlength, hrenames.lane, ← List.map_take,
    ← List.prefix_iff_eq_take.1 hworld]

/-- What was there before the worlds parted has kept its name. -/
theorem eq_of_mem {later last : World} (hrenames : later.Renames last id thread rename)
    (hlater : world.lane id thread <+: later.lane id thread)
    (hlast : world.lane id thread <+: last.lane id thread) {session : SessionId}
    (hsession : session ∈ world.lane id thread) : rename session = session := by
  have hlane : (world.lane id thread).map rename = world.lane id thread :=
    ((hrenames.of_prefix rfl hlater hlast).lane).symm
  obtain ⟨index, hindex⟩ := List.mem_iff_getElem?.1 hsession
  have hplace : ((world.lane id thread).map rename)[index]? = (world.lane id thread)[index]? := by
    rw [hlane]
  rw [List.getElem?_map, hindex] at hplace
  exact Option.some.inj hplace

/-- At every place of a thread there is the same session, under its name in either
world. -/
theorem exists_getElem? (hrenames : world.Renames other id thread rename) {index : Nat}
    {session : SessionId} {found : Session}
    (hentry : (world.roll id thread)[index]? = some (session, found)) :
    ∃ again, (other.roll id thread)[index]? = some (rename session, again) ∧
      again.timeless = found.timeless := by
  have hlane : (other.lane id thread)[index]? = some (rename session) := by
    rw [hrenames.lane, List.getElem?_map, lane_getElem?_iff.2 ⟨found, hentry⟩]
    rfl
  obtain ⟨again, hagain⟩ := lane_getElem?_iff.1 hlane
  refine ⟨again, hagain, ?_⟩
  have hheld : (other.held id thread)[index]? = (world.held id thread)[index]? := by
    rw [hrenames.held]
  rw [held_getElem?, held_getElem?, hagain, hentry] at hheld
  exact Option.some.inj hheld

/-- A live backend binds the same session to the thread, under its name in either
world. -/
theorem find? (hrenames : world.Renames other id thread rename) (hinv : world.Inv)
    (hinv' : other.Inv) {backend again : Backend} (hbackend : world.backend? id = some backend)
    (hlive : backend.live = true) (hagain : other.backend? id = some again)
    (hlive' : again.live = true) :
    again.bound.find? thread = (backend.bound.find? thread).map rename := by
  rw [hinv'.find?_eq hagain hlive', hinv.find?_eq hbackend hlive, hrenames.held, hrenames.lane,
    Option.map_bind]
  simp only [List.getElem?_map]
  rfl

theorem session (hrenames : ∀ thread, world.Renames other id thread rename)
    {session : SessionId} {found : Session} (hfound : world.session? session = some found)
    (hid : found.backend = id) :
    ∃ again, other.session? (rename session) = some again ∧ again.timeless = found.timeless := by
  obtain ⟨index, hentry⟩ := exists_roll_getElem? hfound
  rw [hid] at hentry
  obtain ⟨again, hagain, hsame⟩ := (hrenames found.thread).exists_getElem? hentry
  exact ⟨again, (of_roll_getElem? hagain).1, hsame⟩

/-- A renaming takes the sessions of a backend to those that it has in the other world. -/
theorem bijOn (hrenames : ∀ thread, world.Renames other id thread rename) :
    Set.BijOn rename (world.sessionsOf id : Set SessionId) (other.sessionsOf id) := by
  have hmem (world : World) (session : SessionId) :
      session ∈ (world.sessionsOf id : Set SessionId) ↔
        ∃ thread, session ∈ world.lane id thread := by
    rw [Finset.mem_coe, mem_sessionsOf]
    simp only [mem_lane_iff]
  have hmoved {thread : ThreadId} {session : SessionId}
      (hsession : session ∈ world.lane id thread) : rename session ∈ other.lane id thread := by
    rw [(hrenames thread).lane]
    exact List.mem_map_of_mem hsession
  refine ⟨fun session hsession => ?_, fun first hfirst second hsecond hsame => ?_,
    fun session hsession => ?_⟩
  · obtain ⟨thread, hlane⟩ := (hmem world session).1 hsession
    exact (hmem other _).2 ⟨thread, hmoved hlane⟩
  · obtain ⟨thread, hfirst⟩ := (hmem world first).1 hfirst
    obtain ⟨again, hsecond⟩ := (hmem world second).1 hsecond
    -- a session belongs to one thread, so both stand in one lane
    obtain ⟨found, hfound, -, hthread⟩ := mem_lane_iff.1 (hmoved hfirst)
    obtain ⟨found', hfound', -, hagain⟩ := mem_lane_iff.1 (hmoved hsecond)
    rw [← hsame, hfound] at hfound'
    obtain rfl := Option.some.inj hfound'
    obtain rfl : thread = again := hthread.symm.trans hagain
    have hnodup := other.nodup_lane id thread
    rw [(hrenames thread).lane] at hnodup
    exact List.inj_on_of_nodup_map hnodup hfirst hsecond hsame
  · obtain ⟨thread, hlane⟩ := (hmem other session).1 hsession
    rw [(hrenames thread).lane] at hlane
    obtain ⟨earlier, hearlier, rfl⟩ := List.mem_map.1 hlane
    exact ⟨earlier, (hmem world earlier).2 ⟨thread, hearlier⟩, rfl⟩

end Renames

end World

end TxClient.Local
