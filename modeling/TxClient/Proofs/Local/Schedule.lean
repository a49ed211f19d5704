import Mathlib.Data.List.Perm.Basic
import TxClient.Proofs.Local.Plays

/-!
Threads that share a backend do not feel each other. However their programs are
interleaved, each thread gets the same answers, and the backend is left with the same
sessions, bindings and counters, but for the numbers of sessions and for times.
-/

namespace TxClient.Local

/-- Lists of pairs that have the same entries under each key, in the same order, are
permutations of each other. -/
theorem perm_of_filter_eq {α β : Type} [DecidableEq α] [DecidableEq β] {first second : List (α × β)}
    (hsame : ∀ key, second.filter (·.1 == key) = first.filter (·.1 == key)) :
    second.Perm first := by
  refine List.perm_iff_count.2 fun entry => ?_
  have hcount (list : List (α × β)) :
      (list.filter (·.1 == entry.1)).count entry = list.count entry :=
    List.count_filter (by simp)
  rw [← hcount second, ← hcount first, hsame]

/-- What a thread finds at a backend when it gives a command there. -/
structure Sight where
  held : List Session
  command : Command
  late : Bool
  deriving DecidableEq

/-- How a sight ends a session. -/
def Sight.mark? (sight : Sight) : Option (Option Ending) :=
  (sight.command.ending? sight.held sight.late).map some

/-- The thread that gives a command at a backend, and what it finds. -/
def Play.sight? (id : BackendId) (play : Play) : Option (ThreadId × Sight) :=
  match play.task with
  | .command origin thread command =>
    if origin = id then some (thread, ⟨play.before.held id thread, command, play.isLate⟩) else none
  | _ => none

/-- The plan interleaves programs of threads at a backend. Nothing else is asked, and each
thread gives the commands of its program, with the verdicts that the program has for its
commits. -/
structure Interleaves (id : BackendId) (programs : ThreadId → List (Command × Bool))
    (plan : List (Task × Bool)) : Prop where
  commands : ∀ planned ∈ plan, ∃ thread command, planned.1 = .command id thread command
  order : ∀ thread, plannedFor (Task.command? id thread) plan = programs thread

/-- The answers that a thread gets at a backend. -/
def World.repliesTo (world : World) (id : BackendId) (thread : ThreadId) (turns : List Turn) :
    List (Response × ErrorReport) :=
  ((world.plays turns).filter fun play => (play.command? id thread).isSome).map Play.reply

theorem Interleaves.of_mem_plays {id : BackendId} {programs : ThreadId → List (Command × Bool)}
    {plan : List (Task × Bool)} (hplan : Interleaves id programs plan) {world : World}
    {turns : List Turn} (hturns : world.GoesBy turns plan) :
    ∀ play ∈ world.plays turns, ∃ thread command, play.task = .command id thread command := by
  intro play hplay
  obtain ⟨planned, hmem, htask⟩ := hturns.exists_planned hplay
  rw [← htask]
  exact hplan.commands planned hmem

section Sights

variable {world : World} {id : BackendId} {turns again : List Turn}

/-- What a thread finds in a run, told apart from what others find. -/
theorem filter_sights (plays : List Play) (id : BackendId) (thread : ThreadId) :
    (plays.filterMap (Play.sight? id)).filter (·.1 == thread) =
      (plays.filterMap (Play.heldFor? id thread)).map fun seen =>
        (thread, ⟨seen.1, seen.2.1, seen.2.2⟩) := by
  rw [List.filter_filterMap, List.map_filterMap]
  refine List.filterMap_congr fun play _ => ?_
  obtain ⟨before, task⟩ := play
  cases task with
  | command origin starter command =>
    simp only [Play.sight?, Play.heldFor?, Play.seen?, Play.command?, Play.key?, Task.command?]
    by_cases horigin : origin = id
    · by_cases hstarter : starter = thread
      · simp [horigin, hstarter]
      · simp [horigin, hstarter]
    · simp [horigin]
  | metrics | resetMetrics | activeCount => rfl

/-- Where only commands are given, what is recorded follows from what the threads find. -/
theorem marks_of_sights (hcommands : ∀ play ∈ world.plays turns, ∃ thread command,
      play.task = .command id thread command) :
    ((world.plays turns).filterMap fun play => play.before.mark? id play.task) =
      ((world.plays turns).filterMap (Play.sight? id)).filterMap fun entry => entry.2.mark? := by
  rw [List.filterMap_filterMap]
  refine List.filterMap_congr fun play hplay => ?_
  obtain ⟨thread, command, hcommand⟩ := hcommands play hplay
  obtain ⟨before, task⟩ := play
  obtain rfl : task = .command id thread command := hcommand
  simp [World.mark?, Play.sight?, Sight.mark?, Play.isLate]

/-- It does not matter in which order ends are recorded. -/
theorem recordMark_comm (metrics : Metrics) (first second : Ending) :
    World.recordMark (World.recordMark metrics (some first)) (some second) =
      World.recordMark (World.recordMark metrics (some second)) (some first) := by
  cases first <;> cases second <;> rfl

/-- Runs in which every thread finds the same leave the same record. -/
theorem tally_played_eq (hready : world.Ready id)
    (hcommands : ∀ play ∈ world.plays turns, ∃ thread command,
      play.task = .command id thread command)
    (hcommands' : ∀ play ∈ world.plays again, ∃ thread command,
      play.task = .command id thread command)
    (hseen : ∀ thread,
      (world.plays again).filterMap (Play.heldFor? id thread) =
        (world.plays turns).filterMap (Play.heldFor? id thread)) :
    (world.played again).tally id = (world.played turns).tally id := by
  have hsights : ((world.plays again).filterMap (Play.sight? id)).Perm
      ((world.plays turns).filterMap (Play.sight? id)) := by
    refine perm_of_filter_eq fun thread => ?_
    rw [filter_sights, filter_sights, hseen]
  obtain ⟨-, hend⟩ := (watches_tally id).plays hready turns
  obtain ⟨-, hend'⟩ := (watches_tally id).plays hready again
  rw [hend, hend', marks_of_sights hcommands, marks_of_sights hcommands']
  refine (hsights.filterMap _).foldl_eq' ?_ _
  -- no sight is a reset, and ends can be recorded in any order
  have hending {mark : Option Ending} {sights : List (ThreadId × Sight)}
      (hmark : mark ∈ sights.filterMap fun entry => entry.2.mark?) :
      ∃ ending, mark = some ending := by
    obtain ⟨entry, -, hentry⟩ := List.mem_filterMap.1 hmark
    obtain ⟨ending, -, rfl⟩ := Option.map_eq_some_iff.1 hentry
    exact ⟨ending, rfl⟩
  intro first hfirst second hsecond metrics
  obtain ⟨ending, rfl⟩ := hending hfirst
  obtain ⟨other, rfl⟩ := hending hsecond
  exact recordMark_comm metrics ending other

end Sights

/-- A thread that finds the same in two runs is answered alike. -/
theorem World.Renames.repliesTo {world other : World} {id : BackendId} {thread : ThreadId}
    {turns again : List Turn} {rename : SessionId → SessionId}
    (hrenames : (world.played turns).Renames (other.played again) id thread rename)
    (hready : world.Ready id) (hready' : other.Ready id)
    (hseen : (other.plays again).filterMap (Play.heldFor? id thread) =
      (world.plays turns).filterMap (Play.heldFor? id thread)) :
    List.Forall₂ (RepliesAlike rename) (world.repliesTo id thread turns)
      (other.repliesTo id thread again) := by
  rw [World.repliesTo, World.repliesTo, List.forall₂_map_left_iff, List.forall₂_map_right_iff]
  have halike := forall₂_filter_of_filterMap_eq
    (fun play repeated => RepliesAlike rename play.reply repeated.reply) hseen ?_
  · simpa only [Play.heldFor?, Play.isSome_seen?] using halike
  · intro play hplay repeated hrepeated seen hshown hshown'
    obtain ⟨held, command, late⟩ := seen
    obtain ⟨hheld, hcommand⟩ := Play.seen?_eq_some_iff.1 hshown
    obtain ⟨hheld', hcommand'⟩ := Play.seen?_eq_some_iff.1 hshown'
    obtain ⟨htask, hlate⟩ := Play.command?_eq_some_iff.1 hcommand
    obtain ⟨htask', hlate'⟩ := Play.command?_eq_some_iff.1 hcommand'
    exact hrenames.plays hready hready' hplay hrepeated htask htask' (hlate'.trans hlate.symm)
      (hheld'.trans hheld.symm)

/-- However the programs of threads at a live backend are interleaved, each thread gets
the same answers. The sessions, bindings and counters that are left are the same, but for
the names of new sessions and for times. -/
theorem World.Reachable.schedule_independent {world : World} (hreachable : world.Reachable)
    {id : BackendId} {backend : Backend} (hbackend : world.backend? id = some backend)
    (hlive : backend.live = true) {programs : ThreadId → List (Command × Bool)}
    {plan replan : List (Task × Bool)} (hplan : Interleaves id programs plan)
    (hreplan : Interleaves id programs replan) {turns again : List Turn}
    (hturns : world.GoesBy turns plan) (hagain : world.GoesBy again replan) :
    let ended := world.played turns
    let other := world.played again
    ∃ rename : SessionId → SessionId,
      Set.BijOn rename (ended.sessionsOf id : Set SessionId) (other.sessionsOf id) ∧
      (∀ session ∈ world.sessionsOf id, rename session = session) ∧
      (∀ thread, List.Forall₂ (RepliesAlike rename) (world.repliesTo id thread turns)
        (world.repliesTo id thread again)) ∧
      (∀ session found, ended.session? session = some found → found.backend = id →
        ∃ later, other.session? (rename session) = some later ∧
          later.timeless = found.timeless) ∧
      ∃ last later, ended.backend? id = some last ∧ other.backend? id = some later ∧
        (∀ thread, later.bound.find? thread = (last.bound.find? thread).map rename) ∧
        later.activeCount = last.activeCount ∧
        later.metrics.commits = last.metrics.commits ∧
        later.metrics.rollbacks = last.metrics.rollbacks := by
  intro ended other
  have hready : world.Ready id := ⟨hreachable.inv, backend, hbackend, hlive⟩
  have hsame (thread : ThreadId) := (watches_held id thread).plays_eq_of_planned
    (seesAsking_held id thread) hready hready rfl hturns hagain
    ((hreplan.order thread).trans (hplan.order thread).symm)
  have hrenames (thread : ThreadId) :
      ended.Renames other id thread (ended.counterpart other id) :=
    renames_counterpart (hsame thread).2
  obtain ⟨hinv, last, hlast, hlive⟩ := hready.played turns
  obtain ⟨hinv', later, hlater, hlive'⟩ := hready.played again
  refine ⟨ended.counterpart other id, Renames.bijOn hrenames, ?_, ?_, ?_, last, later, hlast,
    hlater, ?_, ?_, ?_⟩
  · intro session hsession
    obtain ⟨thread, hbelongs⟩ := mem_sessionsOf.1 hsession
    exact (hrenames thread).eq_of_mem (world.lane_played turns id thread)
      (world.lane_played again id thread) (mem_lane_iff.2 hbelongs)
  · intro thread
    exact (hrenames thread).repliesTo hready hready (hsame thread).1
  · intro session found hfound hid
    exact Renames.session hrenames hfound hid
  · intro thread
    exact (hrenames thread).find? hinv hinv' hlast hlive hlater hlive'
  · exact hinv.activeCount_eq hinv' hlast hlive hlater hlive' fun thread => (hsame thread).2
  · have htally : other.tally id = ended.tally id :=
      tally_played_eq hready (hplan.of_mem_plays hturns) (hreplan.of_mem_plays hagain)
        fun thread => (hsame thread).1
    rw [tally, tally, hlast, hlater] at htally
    obtain ⟨-, -, hcommits, hrollbacks⟩ := Metrics.mk.inj htally
    exact ⟨hcommits, hrollbacks⟩

/-- Two threads that each commit or roll back a transaction of their own, one after the
other or by turns: the backend has counted one of either in the end. -/
theorem World.Reachable.schedule_independent_of_two :
    let world := World.initial.after [.around .newBackend]
    let planned (thread : ThreadId) (command : Command) : Task × Bool :=
      (.command ⟨0⟩ thread command, false)
    let plan := [planned ⟨7⟩ (.start default), planned ⟨7⟩ (.ask 0 .commit),
      planned ⟨8⟩ (.start default), planned ⟨8⟩ (.ask 0 .rollback)]
    let replan := [planned ⟨8⟩ (.start default), planned ⟨7⟩ (.start default),
      planned ⟨8⟩ (.ask 0 .rollback), planned ⟨7⟩ (.ask 0 .commit)]
    let turns := plan.map fun planned => Turn.mk 1 .epoch planned.1
    let again := replan.map fun planned => Turn.mk 2 .epoch planned.1
    ∃ rename : SessionId → SessionId,
      Set.BijOn rename ((world.played turns).sessionsOf ⟨0⟩ : Set SessionId)
        ((world.played again).sessionsOf ⟨0⟩) ∧
      List.Forall₂ (RepliesAlike rename) (world.repliesTo ⟨0⟩ ⟨7⟩ turns)
        (world.repliesTo ⟨0⟩ ⟨7⟩ again) := by
  intro world planned plan replan turns again
  have hplan : Interleaves ⟨0⟩ (fun thread => plannedFor (Task.command? ⟨0⟩ thread) plan) plan :=
    ⟨by simp [plan, planned], fun _ => rfl⟩
  have hreplan :
      Interleaves ⟨0⟩ (fun thread => plannedFor (Task.command? ⟨0⟩ thread) plan) replan := by
    refine ⟨by simp [replan, planned], fun thread => ?_⟩
    by_cases hfirst : thread = ⟨7⟩
    · subst hfirst
      rfl
    by_cases hsecond : thread = ⟨8⟩
    · subst hsecond
      rfl
    -- other threads have nothing to say
    simp [plan, replan, planned, plannedFor, Task.command?, Ne.symm hfirst, Ne.symm hsecond]
  have hturns : world.GoesBy turns plan := by decide +kernel
  have hagain : world.GoesBy again replan := by decide +kernel
  obtain ⟨rename, hbijOn, -, hreplies, -⟩ := World.Reachable.schedule_independent
    (World.reachable_after _) rfl rfl hplan hreplan hturns hagain
  exact ⟨rename, hbijOn, hreplies ⟨7⟩⟩

end TxClient.Local
