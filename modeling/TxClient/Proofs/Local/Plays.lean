import Mathlib.Data.List.Forall2
import TxClient.Proofs.Local.Turns

/-!
Runs of turns. What a thread holds at a backend, and what the backend has recorded, change
in a run as they would if nothing else were asked in between. So two runs show the same of
a backend if their plans say the same of it.
-/

namespace TxClient.Local

variable {V κ : Type}

/-- The play is what a plan says at this place. What a plan says about a commit that comes
too late counts only where the commit asks for the time. -/
def Play.GoesBy (play : Play) (planned : Task × Bool) : Prop :=
  play.task = planned.1 ∧ (play.asksTime = true → play.isLate = planned.2)

instance (play : Play) (planned : Task × Bool) : Decidable (play.GoesBy planned) :=
  inferInstanceAs (Decidable (_ ∧ _))

theorem Play.GoesBy.isLate_eq {play : Play} {planned : Task × Bool}
    (hgoes : play.GoesBy planned) : play.isLate = (play.asksTime && planned.2) := by
  cases hasks : play.asksTime with
  | true => exact hgoes.2 hasks
  | false =>
    rw [Bool.false_and, Bool.eq_false_iff]
    intro hlate
    rw [Play.asksTime, World.asksTime_of_isLate hlate] at hasks
    cases hasks

/-- The turns go by a plan, which says what is asked, one thing after the other, and which
commits come too late. When each turn comes is left to the turns. -/
def World.GoesBy (world : World) (turns : List Turn) (plan : List (Task × Bool)) : Prop :=
  List.Forall₂ Play.GoesBy (world.plays turns) plan

instance (world : World) (turns : List Turn) (plan : List (Task × Bool)) :
    Decidable (world.GoesBy turns plan) :=
  inferInstanceAs (Decidable (List.Forall₂ _ _ _))

theorem World.GoesBy.map_task {world : World} {turns : List Turn} {plan : List (Task × Bool)}
    (hgoes : world.GoesBy turns plan) : (world.plays turns).map Play.task = plan.map Prod.fst := by
  have htasks : List.Forall₂ (fun (play : Play) (planned : Task × Bool) => play.task = planned.1)
      (world.plays turns) plan := hgoes.imp fun _ _ hplanned => hplanned.1
  rwa [← List.forall₂_eq_eq_eq, List.forall₂_map_left_iff, List.forall₂_map_right_iff]

theorem World.GoesBy.exists_planned {world : World} {turns : List Turn}
    {plan : List (Task × Bool)} (hgoes : world.GoesBy turns plan) {play : Play}
    (hplay : play ∈ world.plays turns) : ∃ planned ∈ plan, planned.1 = play.task := by
  have htask : play.task ∈ plan.map Prod.fst := by
    rw [← hgoes.map_task]
    exact List.mem_map_of_mem hplay
  exact List.mem_map.1 htask

/-- A view that is taken step by step, each time with what comes next. -/
def follow (step : V → κ → V) : V → List κ → List (V × κ)
  | _, [] => []
  | view, key :: rest => (view, key) :: follow step (step view key) rest

/-- What a view picks out of a task, and whether the task is a commit that comes too
late. -/
def Play.key? (mine? : Task → Option κ) (play : Play) : Option (κ × Bool) :=
  (mine? play.task).map fun mine => (mine, play.isLate)

theorem Play.key?_eq_some_iff {mine? : Task → Option κ} {play : Play} {mine : κ} {late : Bool} :
    play.key? mine? = some (mine, late) ↔ mine? play.task = some mine ∧ play.isLate = late := by
  simp [key?]

/-- What a view picks out of a plan. -/
def plannedFor (mine? : Task → Option κ) (plan : List (Task × Bool)) : List (κ × Bool) :=
  plan.filterMap fun planned => (mine? planned.1).map fun mine => (mine, planned.2)

/-- The view shows which of the tasks that it picks out ask for the time. -/
def SeesAsking (view : World → V) (mine? : Task → Option κ) (asks : V → κ → Bool) : Prop :=
  ∀ world task mine, mine? task = some mine → world.asksTime task = asks (view world) mine

/-- Which commits come too late by a plan, where the view shows which of them ask for the
time. -/
def settle (asks : V → κ → Bool) (step : V → κ × Bool → V) : V → List (κ × Bool) → List (κ × Bool)
  | _, [] => []
  | view, (mine, late) :: rest =>
    let key := (mine, asks view mine && late)
    key :: settle asks step (step view key) rest

/-- A view of the worlds in which a backend is live. It is changed by some plays, and how
these change it is seen from the view itself; other plays, and the clocks, leave it as it
is. -/
structure Watches (id : BackendId) (view : World → V) (key? : Play → Option κ)
    (step : V → κ → V) : Prop where
  tick : ∀ world wait time, view (world.tick wait time) = view world
  mine : ∀ {play : Play} {key}, play.before.Ready id → key? play = some key →
    view play.after = step (view play.before) key
  others : ∀ {play : Play}, play.before.Ready id → key? play = none →
    view play.after = view play.before

/-- What a view shows before a play that it follows. -/
def Play.seen? (view : World → V) (key? : Play → Option κ) (play : Play) : Option (V × κ) :=
  (key? play).map fun key => (view play.before, key)

theorem Play.seen?_eq_some_iff {view : World → V} {key? : Play → Option κ} {play : Play}
    {shown : V} {key : κ} :
    play.seen? view key? = some (shown, key) ↔ view play.before = shown ∧ key? play = some key := by
  simp [seen?, and_comm]

@[simp] theorem Play.isSome_seen? (view : World → V) (key? : Play → Option κ) (play : Play) :
    (play.seen? view key?).isSome = (key? play).isSome :=
  Option.isSome_map

section Runs

variable {world : World} {id : BackendId} {view : World → V} {key? : Play → Option κ}
  {step : V → κ → V}

theorem World.Ready.playOf (hready : world.Ready id) (turn : Turn) :
    (world.playOf turn).before.Ready id :=
  hready.tick turn.wait turn.time

theorem World.Ready.after {play : Play} (hready : play.before.Ready id) : play.after.Ready id :=
  hready.carryOut play.task

theorem World.Ready.played (hready : world.Ready id) (turns : List Turn) :
    (world.played turns).Ready id := by
  induction turns generalizing world with
  | nil => exact hready
  | cons turn rest ih => exact ih (hready.playOf turn).after

/-- In a run the view follows its own plays, whatever comes in between. -/
theorem Watches.plays (hwatches : Watches id view key? step) (hready : world.Ready id)
    (turns : List Turn) :
    (world.plays turns).filterMap (Play.seen? view key?) =
        follow step (view world) ((world.plays turns).filterMap key?) ∧
      view (world.played turns) =
        ((world.plays turns).filterMap key?).foldl step (view world) := by
  induction turns generalizing world with
  | nil => exact ⟨rfl, rfl⟩
  | cons turn rest ih =>
    have hbefore : view (world.playOf turn).before = view world := hwatches.tick world _ _
    obtain ⟨hseen, hend⟩ := ih (hready.playOf turn).after
    simp only [World.plays, World.played, List.filterMap_cons]
    cases hkey : key? (world.playOf turn) with
    | none =>
      have hshown : (world.playOf turn).seen? view key? = none := Option.map_eq_none_iff.2 hkey
      rw [hwatches.others (hready.playOf turn) hkey, hbefore] at hseen hend
      rw [hshown]
      exact ⟨hseen, hend⟩
    | some key =>
      rw [hwatches.mine (hready.playOf turn) hkey, hbefore] at hseen hend
      have hshown : (world.playOf turn).seen? view key? = some (view world, key) :=
        Play.seen?_eq_some_iff.2 ⟨hbefore, hkey⟩
      simp only [hshown, follow, List.foldl_cons, hseen]
      exact ⟨trivial, hend⟩

/-- Two runs that begin alike and have the same plays of their own show the same. -/
theorem Watches.plays_eq (hwatches : Watches id view key? step) {other : World}
    (hready : world.Ready id) (hready' : other.Ready id) (hbegin : view other = view world)
    {turns again : List Turn}
    (hsame : (other.plays again).filterMap key? = (world.plays turns).filterMap key?) :
    (other.plays again).filterMap (Play.seen? view key?) =
        (world.plays turns).filterMap (Play.seen? view key?) ∧
      view (other.played again) = view (world.played turns) := by
  obtain ⟨hseen, hend⟩ := hwatches.plays hready turns
  obtain ⟨hseen', hend'⟩ := hwatches.plays hready' again
  rw [hseen, hseen', hend, hend', hsame, hbegin]
  exact ⟨rfl, rfl⟩

/-- What comes too late in a run follows from the plan, if the view shows what asks for
the time. -/
theorem Watches.key?_plays {mine? : Task → Option κ} {step : V → κ × Bool → V}
    (hwatches : Watches id view (Play.key? mine?) step) {asks : V → κ → Bool}
    (hasks : SeesAsking view mine? asks)
    (hready : world.Ready id) {turns : List Turn} {plan : List (Task × Bool)}
    (hgoes : world.GoesBy turns plan) :
    (world.plays turns).filterMap (Play.key? mine?) =
      settle asks step (view world) (plannedFor mine? plan) := by
  induction turns generalizing world plan with
  | nil =>
    cases hgoes
    rfl
  | cons turn rest ih =>
    obtain _ | @⟨_, planned, _, later, hplay, hrest⟩ := hgoes
    have hbefore : view (world.playOf turn).before = view world := hwatches.tick world _ _
    have hlater := ih (hready.playOf turn).after hrest
    rw [World.plays, List.filterMap_cons]
    cases hmine : mine? planned.1 with
    | none =>
      have hkey : (world.playOf turn).key? mine? = none := by rw [Play.key?, hplay.1, hmine]; rfl
      rw [hkey, hlater, hwatches.others (hready.playOf turn) hkey, hbefore]
      simp [plannedFor, hmine]
    | some mine =>
      have hlate : (world.playOf turn).isLate = (asks (view world) mine && planned.2) := by
        rw [hplay.isLate_eq, Play.asksTime, hplay.1, hasks _ _ _ hmine, hbefore]
      have hkey : (world.playOf turn).key? mine? =
          some (mine, asks (view world) mine && planned.2) :=
        Play.key?_eq_some_iff.2 ⟨hplay.1 ▸ hmine, hlate⟩
      rw [hkey, hlater, hwatches.mine (hready.playOf turn) hkey, hbefore]
      simp [plannedFor, hmine, settle]

/-- Two runs that begin alike show the same, if they go by plans that say the same of what
the view picks out. -/
theorem Watches.plays_eq_of_planned {mine? : Task → Option κ} {step : V → κ × Bool → V}
    (hwatches : Watches id view (Play.key? mine?) step) {asks : V → κ → Bool}
    (hasks : SeesAsking view mine? asks)
    (hready : world.Ready id) {other : World} (hready' : other.Ready id)
    (hbegin : view other = view world) {turns again : List Turn}
    {plan replan : List (Task × Bool)} (hturns : world.GoesBy turns plan)
    (hagain : other.GoesBy again replan) (hsame : plannedFor mine? replan = plannedFor mine? plan) :
    (other.plays again).filterMap (Play.seen? view (Play.key? mine?)) =
        (world.plays turns).filterMap (Play.seen? view (Play.key? mine?)) ∧
      view (other.played again) = view (world.played turns) := by
  refine hwatches.plays_eq hready hready' hbegin ?_
  rw [hwatches.key?_plays hasks hready hturns, hwatches.key?_plays hasks hready' hagain, hsame,
    hbegin]

theorem World.Ready.of_mem_plays (hready : world.Ready id) {turns : List Turn} {play : Play}
    (hplay : play ∈ world.plays turns) : play.before.Ready id := by
  induction turns generalizing world with
  | nil => cases hplay
  | cons turn rest ih =>
    rcases List.mem_cons.1 hplay with rfl | hrest
    · exact hready.playOf turn
    · exact ih (hready.playOf turn).after hrest

theorem World.lane_played (world : World) (turns : List Turn) (id : BackendId)
    (thread : ThreadId) : world.lane id thread <+: (world.played turns).lane id thread := by
  induction turns generalizing world with
  | nil => exact List.prefix_refl _
  | cons turn rest ih =>
    exact (lane_carryOut (world.tick turn.wait turn.time) turn.task id thread).trans (ih _)

/-- Sessions keep their places until the end of the run. -/
theorem World.lane_of_mem_plays {turns : List Turn} {play : Play}
    (hplay : play ∈ world.plays turns) (id : BackendId) (thread : ThreadId) :
    play.after.lane id thread <+: (world.played turns).lane id thread := by
  induction turns generalizing world with
  | nil => cases hplay
  | cons turn rest ih =>
    rcases List.mem_cons.1 hplay with rfl | hrest
    · exact lane_played _ rest id thread
    · exact ih hrest

/-- What a thread asks in two runs is answered alike where it holds alike sessions, if the
verdicts are the same. -/
theorem World.Renames.plays {other : World} {turns again : List Turn} {thread : ThreadId}
    {rename : SessionId → SessionId}
    (hfinal : (world.played turns).Renames (other.played again) id thread rename)
    (hready : world.Ready id) (hready' : other.Ready id) {play repeated : Play}
    (hplay : play ∈ world.plays turns) (hrepeated : repeated ∈ other.plays again)
    {command : Command} (htask : play.task = .command id thread command)
    (htask' : repeated.task = .command id thread command) (hlate : repeated.isLate = play.isLate)
    (hheld : repeated.before.held id thread = play.before.held id thread) :
    RepliesAlike rename play.reply repeated.reply := by
  have hbefore := hready.of_mem_plays hplay
  have hbefore' := hready'.of_mem_plays hrepeated
  have hlane := World.lane_of_mem_plays hplay id thread
  have hlane' := World.lane_of_mem_plays hrepeated id thread
  obtain ⟨before, task⟩ := play
  obtain ⟨before', task'⟩ := repeated
  obtain rfl : task = .command id thread command := htask
  obtain rfl : task' = .command id thread command := htask'
  have hlate : before'.isLate (.command id thread command) =
      before.isLate (.command id thread command) := hlate
  have hheld' : (before'.carryOut (.command id thread command)).held id thread =
      (before.carryOut (.command id thread command)).held id thread := by
    rw [hbefore'.held_carryOut, hbefore.held_carryOut, hlate]
    exact congrArg (command.advance id thread · _) hheld
  have hafter := hfinal.of_prefix hheld' hlane hlane'
  exact (hafter.of_prefix hheld (before.lane_carryOut _ id thread)
    (before'.lane_carryOut _ id thread)).repliesAlike hbefore hbefore' hafter hlate

end Runs

/-- Lists that show the same are alike element by element, leaving out what shows
nothing. -/
theorem forall₂_filter_of_filterMap_eq {α γ : Type} {show? : α → Option γ} {first second : List α}
    (alike : α → α → Prop) (hsame : second.filterMap show? = first.filterMap show?)
    (halike : ∀ a ∈ first, ∀ b ∈ second, ∀ shown, show? a = some shown → show? b = some shown →
      alike a b) :
    List.Forall₂ alike (first.filter fun a => (show? a).isSome)
      (second.filter fun b => (show? b).isSome) := by
  have hmap (list : List α) : (list.filter fun a => (show? a).isSome).map show? =
      (list.filterMap show?).map some := by
    induction list with
    | nil => rfl
    | cons a rest ih => cases hshow : show? a <;> simp [hshow, ih]
  have hshown : List.Forall₂ Eq ((first.filter fun a => (show? a).isSome).map show?)
      ((second.filter fun b => (show? b).isSome).map show?) := by
    rw [hmap, hmap, hsame, List.forall₂_eq_eq_eq]
  obtain ⟨hlength, hzip⟩ := List.forall₂_iff_zip.1
    (List.forall₂_map_right_iff.1 (List.forall₂_map_left_iff.1 hshown))
  refine List.forall₂_iff_zip.2 ⟨hlength, fun {a b} hmem => ?_⟩
  obtain ⟨hfirst, hsecond⟩ := List.of_mem_zip hmem
  obtain ⟨hfirst, hsome⟩ := List.mem_filter.1 hfirst
  obtain ⟨shown, hshow⟩ := Option.isSome_iff_exists.1 hsome
  exact halike a hfirst b (List.mem_filter.1 hsecond).1 shown hshow ((hzip hmem).symm.trans hshow)

/-- A command of a thread at a backend. -/
def Task.command? (id : BackendId) (thread : ThreadId) : Task → Option Command
  | .command origin starter given => if origin = id ∧ starter = thread then some given else none
  | .metrics _ | .resetMetrics _ | .activeCount _ => none

theorem Task.command?_eq_some_iff {id : BackendId} {thread : ThreadId} {task : Task}
    {given : Command} :
    task.command? id thread = some given ↔ task = .command id thread given := by
  cases task with
  | command origin starter again =>
    by_cases hmine : origin = id ∧ starter = thread
    · obtain ⟨rfl, rfl⟩ := hmine
      simp [command?]
    · simp only [command?, if_neg hmine, Task.command.injEq, reduceCtorEq, false_iff]
      exact fun hall => hmine ⟨hall.1, hall.2.1⟩
  | metrics | resetMetrics | activeCount => simp [command?]

/-- A command of a thread at a backend, and whether it is a commit that comes too late. -/
def Play.command? (id : BackendId) (thread : ThreadId) : Play → Option (Command × Bool) :=
  Play.key? (Task.command? id thread)

theorem Play.command?_eq_some_iff {id : BackendId} {thread : ThreadId} {play : Play}
    {command : Command} {late : Bool} :
    play.command? id thread = some (command, late) ↔
      play.task = .command id thread command ∧ play.isLate = late :=
  Play.key?_eq_some_iff.trans (and_congr_left' Task.command?_eq_some_iff)

/-- What a thread holds at a backend is changed by its own commands there. -/
theorem watches_held (id : BackendId) (thread : ThreadId) :
    Watches id (fun world => world.held id thread) (Play.command? id thread)
      (fun held key => key.1.advance id thread held key.2) where
  tick _ _ _ := rfl
  mine := by
    rintro ⟨before, task⟩ ⟨command, late⟩ hready hkey
    obtain ⟨rfl, rfl⟩ := Play.command?_eq_some_iff.1 hkey
    exact hready.held_carryOut thread command
  others := by
    intro play hready hkey
    have hother (command : Command) : play.task ≠ .command id thread command := by
      intro htask
      rw [Play.command?_eq_some_iff.2 ⟨htask, rfl⟩] at hkey
      cases hkey
    exact congrArg (List.map _) (World.roll_carryOut_of_ne hother)

/-- What a thread holds when it gives a command, and the command. -/
def Play.heldFor? (id : BackendId) (thread : ThreadId) :
    Play → Option (List Session × (Command × Bool)) :=
  Play.seen? (fun world => world.held id thread) (Play.command? id thread)

theorem seesAsking_held (id : BackendId) (thread : ThreadId) :
    SeesAsking (fun world => world.held id thread) (Task.command? id thread)
      (fun held command => command.asksTime held) := by
  intro world task command hcommand
  obtain rfl := Task.command?_eq_some_iff.1 hcommand
  rfl

namespace World

variable {world : World} {id : BackendId} {task : Task}

/-- What a backend has recorded, but for the times. -/
def tally (world : World) (id : BackendId) : Metrics :=
  ((world.backend? id).map fun backend => backend.metrics.timeless).getD .empty

/-- What a task records at a backend: how a session ends, or that its metrics begin anew. -/
def mark? (world : World) (id : BackendId) (task : Task) : Option (Option Ending) :=
  match task with
  | .command origin thread command =>
    if origin = id then
      (command.ending? (world.held id thread) (world.isLate task)).map some
    else none
  | .resetMetrics origin => if origin = id then some none else none
  | .metrics _ | .activeCount _ => none

/-- The metrics after something has been recorded. -/
def recordMark (metrics : Metrics) : Option Ending → Metrics
  | some ending => metrics.record ending .epoch
  | none => .empty

theorem carryOut_start_cases (world : World) (origin : BackendId) (starter : ThreadId)
    (options : TxOptions) :
    world.carryOut (.command origin starter (.start options)) = world ∨
      world.carryOut (.command origin starter (.start options)) =
        world.enroll origin starter options := by
  have hrequest : world.request? (.command origin starter (.start options)) =
      some (.start origin starter options) := rfl
  rw [carryOut_of_some hrequest]
  have hstep := step_next world (.start origin starter options)
  generalize world.next (.start origin starter options) = after at hstep
  cases hstep with
  | started => exact .inr rfl
  | refused | absent => exact .inl rfl

/-- A task reaches its own backend only. -/
theorem backend?_carryOut_of_ne (hother : task.backend ≠ id) :
    (world.carryOut task).backend? id = world.backend? id := by
  cases task with
  | command origin thread command =>
    have horigin : id ≠ origin := Ne.symm hother
    cases command with
    | start options =>
      rcases world.carryOut_start_cases origin thread options with hcarried | hcarried
      · rw [hcarried]
      · rw [hcarried, backend?_enroll, if_neg horigin]
    | current => rfl
    | ask index op =>
      cases hentry : (world.roll origin thread)[index]? with
      | none => rw [carryOut_of_none (request?_ask_of_none hentry op)]
      | some entry =>
        obtain ⟨session, found⟩ := entry
        obtain ⟨-, hbackend, -⟩ := of_roll_getElem? hentry
        rw [carryOut_ask hentry, backend?_respond, hbackend]
        split
        · exact if_neg horigin
        · rfl
  | resetMetrics origin =>
    have horigin : id ≠ origin := Ne.symm hother
    have hreset : (world.carryOut (.resetMetrics origin)).backend? id = _ :=
      world.backend?_modifyBackend origin id _
    rw [hreset, if_neg horigin]
  | metrics | activeCount => rfl

/-- An ask records the end that it brings about. -/
theorem Ready.tally_ask (hready : world.Ready id) (thread : ThreadId) (index : Nat)
    (op : SessionOp) :
    (world.carryOut (.command id thread (.ask index op))).tally id =
      match Command.ending? (.ask index op) (world.held id thread)
          (world.isLate (.command id thread (.ask index op))) with
      | some ending => (world.tally id).record ending .epoch
      | none => world.tally id := by
  obtain ⟨-, backend, hbackend, hlive⟩ := hready
  rw [Command.ending?, isLate, held_getElem?]
  cases hentry : (world.roll id thread)[index]? with
  | none =>
    rw [carryOut_of_none (request?_ask_of_none hentry op)]
    rfl
  | some entry =>
    obtain ⟨session, found⟩ := entry
    obtain ⟨-, hid, -⟩ := of_roll_getElem? hentry
    have hsame : found.timeless.timeless = found.timeless := rfl
    have hending := (Session.react_alike hsame (fun _ => ⟨0⟩) session
      (found.isLate world.stopwatch op) op).ending
    simp only [Option.map_some, Option.bind_some, Option.any_some, hending]
    rw [carryOut_ask hentry, tally, tally, backend?_respond, hbackend]
    cases (found.react session (found.isLate world.stopwatch op) op).ending? with
    | none => rfl
    | some ending =>
      simp only [if_pos hid.symm, Option.map_some, Backend.conclude_of_live hlive]
      exact Metrics.timeless_record backend.metrics ending world.calendar

theorem Ready.tally_carryOut (hready : world.Ready id) (task : Task) :
    (world.carryOut task).tally id =
      match world.mark? id task with
      | some mark => recordMark (world.tally id) mark
      | none => world.tally id := by
  by_cases hbackend : task.backend = id
  · cases task with
    | command origin thread command =>
      obtain rfl : origin = id := hbackend
      rw [mark?, if_pos rfl]
      cases command with
      | start options =>
        rcases world.carryOut_start_cases origin thread options with hcarried | hcarried
        · rw [hcarried]
          rfl
        · rw [hcarried, tally, backend?_enroll, if_pos rfl, Option.map_map]
          rfl
      | current => rfl
      | ask index op =>
        rw [hready.tally_ask thread index op]
        cases Command.ending? (.ask index op) (world.held origin thread)
          (world.isLate (.command origin thread (.ask index op))) <;> rfl
    | resetMetrics origin =>
      obtain rfl : origin = id := hbackend
      have hreset : (world.carryOut (.resetMetrics origin)).backend? origin = _ :=
        world.backend?_modifyBackend origin origin _
      rw [tally, hreset, if_pos rfl, mark?, if_pos rfl, Option.map_map]
      cases world.backend? origin <;> rfl
    | metrics | activeCount => rfl
  · have hmark : world.mark? id task = none := by
      cases task with
      | command | resetMetrics => exact if_neg hbackend
      | metrics | activeCount => rfl
    rw [tally, backend?_carryOut_of_ne hbackend, hmark]
    rfl

end World

/-- The record of a backend is changed by what its sessions' ends and resets add to it. -/
theorem watches_tally (id : BackendId) :
    Watches id (fun world => world.tally id) (fun play => play.before.mark? id play.task)
      World.recordMark where
  tick _ _ _ := rfl
  mine := by
    intro play mark hready hmark
    have htally := hready.tally_carryOut play.task
    rw [hmark] at htally
    exact htally
  others := by
    intro play hready hmark
    have htally := hready.tally_carryOut play.task
    rw [hmark] at htally
    exact htally

end TxClient.Local
