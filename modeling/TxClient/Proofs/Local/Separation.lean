import TxClient.Proofs.Local.Plays

/-!
Backends do not feel each other, though the same threads use them. What is asked of one
backend and of its sessions is answered as if nobody asked anything of the others, but for
the numbers of sessions and for times.
-/

namespace TxClient.Local

/-- What can be told of a backend: what every thread holds there, and what it has
recorded. -/
structure Front where
  held : ThreadId → List Session
  tally : Metrics

namespace World

def front (world : World) (id : BackendId) : Front :=
  ⟨fun thread => world.held id thread, world.tally id⟩

end World

/-- What can be told of a backend after a task of its own, if a commit comes too late or
if it does not. -/
def Front.advance (front : Front) (id : BackendId) (task : Task) (late : Bool) : Front :=
  match task with
  | .command _ thread command =>
    { held := fun other =>
        if other = thread then command.advance id thread (front.held thread) late
        else front.held other
      tally :=
        match command.ending? (front.held thread) late with
        | some ending => front.tally.record ending .epoch
        | none => front.tally }
  | .resetMetrics _ => { front with tally := .empty }
  | .metrics _ | .activeCount _ => front

/-- What can be told of a backend shows which of its tasks ask for the time. -/
def Front.asksTime (front : Front) : Task → Bool
  | .command _ thread command => command.asksTime (front.held thread)
  | .metrics _ | .resetMetrics _ | .activeCount _ => false

/-- A task that is addressed to a backend. -/
def Task.addressed? (id : BackendId) (task : Task) : Option Task :=
  if task.backend = id then some task else none

theorem Task.addressed?_eq_some_iff {id : BackendId} {task again : Task} :
    task.addressed? id = some again ↔ task.backend = id ∧ task = again := by
  rw [addressed?, Option.ite_none_right_eq_some, Option.some.injEq]

theorem Task.addressed?_eq_none_iff {id : BackendId} {task : Task} :
    task.addressed? id = none ↔ task.backend ≠ id := by
  simp [addressed?]

namespace World

variable {world : World} {id : BackendId}

/-- A task that is no command at a backend leaves what is held there as it is. -/
theorem held_carryOut_of_ne {task : Task} {thread : ThreadId}
    (hother : ∀ command, task ≠ .command id thread command) :
    (world.carryOut task).held id thread = world.held id thread :=
  congrArg (List.map _) (roll_carryOut_of_ne hother)

/-- A task that is addressed elsewhere leaves the sessions of a backend as they are. -/
theorem roll_carryOut_of_backend_ne {task : Task} (hother : task.backend ≠ id)
    (thread : ThreadId) : (world.carryOut task).roll id thread = world.roll id thread := by
  refine roll_carryOut_of_ne fun command htask => hother ?_
  rw [htask]
  rfl

theorem Ready.front_carryOut (hready : world.Ready id) {task : Task} (hid : task.backend = id) :
    (world.carryOut task).front id =
      (world.front id).advance id task (world.isLate task) := by
  have htally := hready.tally_carryOut task
  cases task with
  | command origin thread command =>
    obtain rfl : origin = id := hid
    have hheld (other : ThreadId) :
        (world.carryOut (.command origin thread command)).held origin other =
          if other = thread then
            command.advance origin thread (world.held origin thread)
              (world.isLate (.command origin thread command))
          else world.held origin other := by
      split
      · next hsame =>
        rw [hsame]
        exact hready.held_carryOut thread command
      · next hne =>
        refine held_carryOut_of_ne fun again htask => hne ?_
        exact (Task.command.inj htask).2.1.symm
    have hrecorded : (world.carryOut (.command origin thread command)).tally origin =
        match command.ending? (world.held origin thread)
          (world.isLate (.command origin thread command)) with
        | some ending => (world.tally origin).record ending .epoch
        | none => world.tally origin := by
      rw [htally, mark?, if_pos rfl]
      cases command.ending? (world.held origin thread)
        (world.isLate (.command origin thread command)) <;> rfl
    rw [front, funext hheld, hrecorded]
    rfl
  | resetMetrics origin =>
    obtain rfl : origin = id := hid
    rw [mark?, if_pos rfl] at htally
    have hheld (other : ThreadId) :
        (world.carryOut (.resetMetrics origin)).held origin other = world.held origin other :=
      held_carryOut_of_ne fun _ htask => Task.noConfusion htask
    rw [front, funext hheld, htally]
    rfl
  | metrics | activeCount => rfl

theorem front_carryOut_of_ne {task : Task} (hother : task.backend ≠ id) :
    (world.carryOut task).front id = world.front id := by
  have hheld (thread : ThreadId) :
      (world.carryOut task).held id thread = world.held id thread :=
    congrArg (List.map _) (roll_carryOut_of_backend_ne hother thread)
  rw [front, funext hheld, tally, backend?_carryOut_of_ne hother]
  rfl

end World

/-- What can be told of a backend is changed by the tasks that are addressed to it. -/
theorem watches_front (id : BackendId) :
    Watches id (fun world => world.front id) (Play.key? (Task.addressed? id))
      (fun front key => front.advance id key.1 key.2) where
  tick _ _ _ := rfl
  mine := by
    rintro play ⟨task, late⟩ hready hkey
    obtain ⟨haddressed, rfl⟩ := Play.key?_eq_some_iff.1 hkey
    obtain ⟨hid, rfl⟩ := Task.addressed?_eq_some_iff.1 haddressed
    exact hready.front_carryOut hid
  others := by
    intro play hready hkey
    rw [Play.key?, Option.map_eq_none_iff] at hkey
    exact World.front_carryOut_of_ne (Task.addressed?_eq_none_iff.1 hkey)

theorem seesAsking_front (id : BackendId) :
    SeesAsking (fun world => world.front id) (Task.addressed? id) Front.asksTime := by
  intro world task again haddressed
  obtain ⟨rfl, rfl⟩ := Task.addressed?_eq_some_iff.1 haddressed
  cases task <;> rfl

/-- What can be told of a backend when it is addressed, and the task. -/
def Play.frontFor? (id : BackendId) : Play → Option (Front × (Task × Bool)) :=
  Play.seen? (fun world => world.front id) (Play.key? (Task.addressed? id))

/-- What a plan says of a backend is left when the rest is deleted. -/
theorem plannedFor_filter (id : BackendId) (plan : List (Task × Bool)) :
    plannedFor (Task.addressed? id) (plan.filter (·.1.backend == id)) =
      plannedFor (Task.addressed? id) plan := by
  rw [plannedFor, plannedFor, List.filterMap_filter]
  refine List.filterMap_congr fun planned _ => ?_
  by_cases hid : planned.1.backend = id <;> simp [Task.addressed?, hid]

namespace World

/-- Backends that show the same count as many unfinished sessions. -/
theorem Ready.reply_activeCount {world other : World} {id : BackendId} (hready : world.Ready id)
    (hready' : other.Ready id) (hfront : other.front id = world.front id) :
    other.reply (.activeCount id) = world.reply (.activeCount id) := by
  obtain ⟨hinv, backend, hbackend, hlive⟩ := hready
  obtain ⟨hinv', again, hagain, hlive'⟩ := hready'
  have hcount := hinv.activeCount_eq hinv' hbackend hlive hagain hlive' fun thread =>
    congrFun (congrArg Front.held hfront) thread
  rw [reply, reply, hbackend, hagain, Option.map_some, Option.map_some, hcount]

/-- Backends that show the same report the same metrics, but for times. -/
theorem Ready.reply_metrics {world other : World} {id : BackendId} (hready : world.Ready id)
    (hready' : other.Ready id) (hfront : other.front id = world.front id)
    (rename : SessionId → SessionId) :
    RepliesAlike rename (world.reply (.metrics id)) (other.reply (.metrics id)) := by
  obtain ⟨-, backend, hbackend, -⟩ := hready
  obtain ⟨-, again, hagain, -⟩ := hready'
  have hreply {world : World} {backend : Backend} (hbackend : world.backend? id = some backend) :
      world.reply (.metrics id) = (.metrics backend.metrics, .success) := by
    have hmetrics : world.reply (.metrics id) =
        (.metrics (((world.backend? id).map (·.metrics)).getD .empty), .success) := rfl
    rw [hmetrics, hbackend]
    rfl
  have htally : other.tally id = world.tally id := congrArg Front.tally hfront
  rw [tally, tally, hbackend, hagain] at htally
  rw [hreply hbackend, hreply hagain]
  exact ⟨.metrics htally, .same _⟩

/-- A thread that has an unfinished session at a backend can start one at another. -/
theorem Unfinished.after_start {world : World} {id other : BackendId}
    {thread starter : ThreadId} {session : SessionId} (options : TxOptions)
    (hunfinished : world.Unfinished id thread session) :
    (world.next (.start other starter options)).Unfinished id thread session := by
  have hstep := step_next world (.start other starter options)
  generalize world.next (.start other starter options) = after at hstep
  cases hstep with
  | started => exact unfinished_enroll.2 (.inr hunfinished)
  | refused | absent => exact hunfinished

/-- A thread that starts at a live backend holds an unfinished session there, a new one or
the one that is in its way. -/
theorem Ready.exists_unfinished {world : World} {id : BackendId} (hready : world.Ready id)
    (thread : ThreadId) (options : TxOptions) :
    ∃ session, (world.next (.start id thread options)).Unfinished id thread session := by
  obtain ⟨hinv, backend, hbackend, hlive⟩ := hready
  cases hfind : backend.bound.find? thread with
  | none =>
    refine ⟨world.nextSession, ?_⟩
    rw [next_start_of_free hbackend hfind]
    exact unfinished_enroll.2 (.inl ⟨rfl, rfl, rfl⟩)
  | some existing =>
    have hexisting := (hinv.bound id backend hbackend hlive thread existing).1 hfind
    exact ⟨existing, hexisting.after_start options⟩

/-- A thread that starts at each of some live backends holds an unfinished session at all
of them. -/
theorem unfinished_after_starts {world : World} (thread : ThreadId)
    (options : BackendId → TxOptions) {ids : List BackendId} (hready : ∀ id ∈ ids, world.Ready id) :
    ∀ id ∈ ids, ∃ session,
      (world.after (ids.map fun id => .start id thread (options id))).Unfinished
        id thread session := by
  induction ids generalizing world with
  | nil => exact nofun
  | cons first rest ih =>
    intro id hid
    rw [List.map_cons, after, List.foldl_cons]
    rcases List.mem_cons.1 hid with rfl | hlater
    · obtain ⟨session, hsession⟩ := (hready id hid).exists_unfinished thread (options id)
      refine ⟨session, ?_⟩
      -- the starts that follow are at other backends, or are refused
      have hstays (later : List BackendId) {world : World}
          (hunfinished : world.Unfinished id thread session) :
          (world.after (later.map fun id => .start id thread (options id))).Unfinished id thread
            session := by
        induction later generalizing world with
        | nil => exact hunfinished
        | cons other later ih => exact ih (hunfinished.after_start _)
      exact hstays rest hsession
    · exact ih (fun id hid => (hready id (List.mem_cons_of_mem _ hid)).carryOut
        (.command first thread (.start (options first)))) id hlater

/-- The answers of a backend and its sessions. -/
def repliesOf (world : World) (id : BackendId) (turns : List Turn) :
    List (Response × ErrorReport) :=
  ((world.plays turns).filter (·.task.backend == id)).map Play.reply

section Runs

variable {world : World} {id : BackendId} {turns fewer : List Turn} {plan : List (Task × Bool)}

/-- All that is asked in a run that goes by what is left is addressed to the backend. -/
theorem GoesBy.filter_plays (hfewer : world.GoesBy fewer (plan.filter (·.1.backend == id))) :
    (world.plays fewer).filter (·.task.backend == id) = world.plays fewer := by
  refine List.filter_eq_self.2 fun play hplay => ?_
  obtain ⟨planned, hmem, htask⟩ := hfewer.exists_planned hplay
  rw [← htask]
  exact (List.mem_filter.1 hmem).2

/-- A backend looks the same throughout both runs. -/
theorem Ready.front_plays_eq (hready : world.Ready id) (hturns : world.GoesBy turns plan)
    (hfewer : world.GoesBy fewer (plan.filter (·.1.backend == id))) :
    (world.plays fewer).filterMap (Play.frontFor? id) =
        (world.plays turns).filterMap (Play.frontFor? id) ∧
      (world.played fewer).front id = (world.played turns).front id :=
  (watches_front id).plays_eq_of_planned (seesAsking_front id) hready hready rfl hturns hfewer
    (plannedFor_filter id plan)

/-- What is asked of a backend in two runs is answered alike where the backend shows the
same, if the verdicts are the same. -/
theorem Ready.repliesAlike {other : World} {rename : SessionId → SessionId} {play repeated : Play}
    (hready : world.Ready id) (hready' : other.Ready id)
    (hrenames : ∀ thread, (world.played turns).Renames (other.played fewer) id thread rename)
    (hplay : play ∈ world.plays turns) (hrepeated : repeated ∈ other.plays fewer)
    (hid : play.task.backend = id) (htask : repeated.task = play.task)
    (hlate : repeated.isLate = play.isLate)
    (hfront : repeated.before.front id = play.before.front id) :
    RepliesAlike rename play.reply repeated.reply := by
  have hbefore := hready.of_mem_plays hplay
  have hbefore' := hready'.of_mem_plays hrepeated
  cases htask' : play.task with
  | command origin thread command =>
    rw [htask'] at hid htask
    obtain rfl : origin = id := hid
    exact (hrenames thread).plays hready hready' hplay hrepeated htask' htask hlate
      (congrFun (congrArg Front.held hfront) thread)
  | metrics origin =>
    rw [htask'] at hid htask
    obtain rfl : origin = id := hid
    rw [Play.reply, Play.reply, htask', htask]
    exact hbefore.reply_metrics hbefore' hfront rename
  | resetMetrics origin =>
    rw [Play.reply, Play.reply, htask, htask']
    exact ⟨.done, .same _⟩
  | activeCount origin =>
    rw [htask'] at hid htask
    obtain rfl : origin = id := hid
    rw [Play.reply, Play.reply, htask', htask, hbefore.reply_activeCount hbefore' hfront]
    exact ⟨.count _, .same _⟩

/-- A backend answers as it does in the whole run when what is asked elsewhere is left
out. -/
theorem Ready.forall₂_repliesOf {rename : SessionId → SessionId} (hready : world.Ready id)
    (hturns : world.GoesBy turns plan)
    (hfewer : world.GoesBy fewer (plan.filter (·.1.backend == id)))
    (hrenames : ∀ thread, (world.played turns).Renames (world.played fewer) id thread rename) :
    List.Forall₂ (RepliesAlike rename) (world.repliesOf id turns)
      ((world.plays fewer).map Play.reply) := by
  obtain ⟨hseen, -⟩ := hready.front_plays_eq hturns hfewer
  have halike := forall₂_filter_of_filterMap_eq
    (fun play repeated => RepliesAlike rename play.reply repeated.reply) hseen ?_
  · have hmine (play : Play) : (play.frontFor? id).isSome = (play.task.backend == id) := by
      by_cases hid : play.task.backend = id <;>
        simp [Play.frontFor?, Play.key?, Task.addressed?, hid]
    simp only [hmine, hfewer.filter_plays] at halike
    exact List.forall₂_map_left_iff.2 (List.forall₂_map_right_iff.2 halike)
  · intro play hplay repeated hrepeated seen hshown hshown'
    obtain ⟨front, task, late⟩ := seen
    obtain ⟨hfront, hkey⟩ := Play.seen?_eq_some_iff.1 hshown
    obtain ⟨hfront', hkey'⟩ := Play.seen?_eq_some_iff.1 hshown'
    obtain ⟨haddressed, hlate⟩ := Play.key?_eq_some_iff.1 hkey
    obtain ⟨haddressed', hlate'⟩ := Play.key?_eq_some_iff.1 hkey'
    obtain ⟨hid, htask⟩ := Task.addressed?_eq_some_iff.1 haddressed
    obtain ⟨-, htask'⟩ := Task.addressed?_eq_some_iff.1 haddressed'
    exact hready.repliesAlike hready hrenames hplay hrepeated hid (htask'.trans htask.symm)
      (hlate'.trans hlate.symm) (hfront'.trans hfront.symm)

end Runs

/-- What is asked of a live backend and of its sessions is answered as if nothing were
asked of other backends, but for the names of new sessions and for times. Nothing that is
asked of one backend changes another or its sessions, and a thread can hold an unfinished
session at each of them. -/
theorem Reachable.backends_separate {world : World} (hreachable : world.Reachable)
    {id : BackendId} {backend : Backend} (hbackend : world.backend? id = some backend)
    (hlive : backend.live = true) {plan : List (Task × Bool)} {turns fewer : List Turn}
    (hturns : world.GoesBy turns plan)
    (hfewer : world.GoesBy fewer (plan.filter (·.1.backend == id))) :
    (∃ rename : SessionId → SessionId,
      Set.BijOn rename ((world.played turns).sessionsOf id : Set SessionId)
        ((world.played fewer).sessionsOf id) ∧
      (∀ session ∈ world.sessionsOf id, rename session = session) ∧
      List.Forall₂ (RepliesAlike rename) (world.repliesOf id turns)
        ((world.plays fewer).map Play.reply)) ∧
    (∀ play ∈ world.plays turns, ∀ other, other ≠ play.task.backend →
      play.after.backend? other = play.before.backend? other ∧
        ∀ session found, found.backend = other →
          (play.after.session? session = some found ↔
            play.before.session? session = some found)) ∧
    ∀ (thread : ThreadId) (options : BackendId → TxOptions) (ids : List BackendId),
      (∀ other ∈ ids, ∃ found, (world.played turns).backend? other = some found ∧
        found.live = true) →
      ∀ other ∈ ids, ∃ session, ((world.played turns).after
        (ids.map fun other => .start other thread (options other))).Unfinished
          other thread session := by
  have hready : world.Ready id := ⟨hreachable.inv, backend, hbackend, hlive⟩
  obtain ⟨-, hfront⟩ := hready.front_plays_eq hturns hfewer
  have hrenames (thread : ThreadId) : (world.played turns).Renames (world.played fewer) id thread
      ((world.played turns).counterpart (world.played fewer) id) :=
    renames_counterpart (congrFun (congrArg Front.held hfront) thread)
  refine ⟨⟨_, Renames.bijOn hrenames, fun session hsession => ?_,
    hready.forall₂_repliesOf hturns hfewer hrenames⟩, ?_, ?_⟩
  · obtain ⟨thread, hbelongs⟩ := mem_sessionsOf.1 hsession
    exact (hrenames thread).eq_of_mem (world.lane_played turns id thread)
      (world.lane_played fewer id thread) (mem_lane_iff.2 hbelongs)
  · intro play hplay other hother
    refine ⟨backend?_carryOut_of_ne hother.symm, fun session found hfound => ?_⟩
    have hroll : play.after.roll other found.thread = play.before.roll other found.thread :=
      roll_carryOut_of_backend_ne hother.symm found.thread
    have hmem {world : World} : (session, found) ∈ world.roll other found.thread ↔
        world.session? session = some found :=
      mem_roll_iff.trans (and_iff_left ⟨hfound, rfl⟩)
    rw [← hmem, ← hmem, hroll]
  · intro thread options ids hlive
    exact unfinished_after_starts thread options fun id hid =>
      ⟨(hready.played turns).inv, hlive id hid⟩

/-- A thread starts a transaction at two backends and commits both, one of them too late.
That backend refuses another start in between, and names its transaction, which is the
second one that was started, or the only one. -/
theorem Reachable.backends_separate_of_two :
    let world := initial.after [.around .newBackend, .around .newBackend]
    let hasty : TxOptions := { (default : TxOptions) with timeout := ⟨1, by decide⟩ }
    let plan : List (Task × Bool) := [(.command ⟨1⟩ ⟨7⟩ (.start default), false),
      (.command ⟨0⟩ ⟨7⟩ (.start hasty), false), (.activeCount ⟨0⟩, false),
      (.command ⟨1⟩ ⟨7⟩ (.ask 0 .commit), false), (.command ⟨0⟩ ⟨7⟩ (.start hasty), false),
      (.command ⟨0⟩ ⟨7⟩ (.ask 0 .commit), true), (.metrics ⟨0⟩, false)]
    let turns := plan.map fun planned => Turn.mk 1 .epoch planned.1
    let fewer := (plan.filter (·.1.backend == ⟨0⟩)).map fun planned => Turn.mk 2 .epoch planned.1
    ∃ rename : SessionId → SessionId,
      Set.BijOn rename ((world.played turns).sessionsOf ⟨0⟩ : Set SessionId)
        ((world.played fewer).sessionsOf ⟨0⟩) ∧
      List.Forall₂ (RepliesAlike rename) (world.repliesOf ⟨0⟩ turns)
        ((world.plays fewer).map Play.reply) := by
  intro world hasty plan turns fewer
  have hturns : world.GoesBy turns plan := by decide +kernel
  have hfewer : world.GoesBy fewer (plan.filter (·.1.backend == ⟨0⟩)) := by decide +kernel
  obtain ⟨⟨rename, hbijOn, -, hreplies⟩, -, -⟩ :=
    Reachable.backends_separate (reachable_after _) rfl rfl hturns hfewer
  exact ⟨rename, hbijOn, hreplies⟩

end World

end TxClient.Local
