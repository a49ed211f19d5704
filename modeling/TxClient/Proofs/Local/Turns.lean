import TxClient.Proofs.Local.Lane

/-!
Threads that take turns at local backends: one thing is asked at a time, and in between
the clocks move. What a thread holds at a backend after a turn follows from what it held
before, and from whether a commit came too late; so do the answers, but for the numbers of
sessions and for times.
-/

namespace TxClient

/-- Metrics but for the times that are recorded. -/
def Metrics.timeless (metrics : Metrics) : Metrics :=
  { metrics with
    commitTime := metrics.commitTime.map fun _ => .epoch
    rollbackTime := metrics.rollbackTime.map fun _ => .epoch }

theorem Metrics.timeless_record (metrics : Metrics) (ending : Ending) (time : Timestamp) :
    (metrics.record ending time).timeless = metrics.timeless.record ending .epoch := by
  cases ending <;> rfl

namespace Local

/-- What a thread asks of a backend. It knows its sessions there by their places, from the
first that it has started; at a place where there is none it has an unusable handle. -/
inductive Command where
  | start (options : TxOptions)
  | current
  | ask (index : Nat) (op : SessionOp)
  deriving DecidableEq, Repr

/-- What is asked of a backend. A session may be asked by any thread that has a handle on
it; it stands under the thread that has started it. -/
inductive Task where
  | command (backend : BackendId) (thread : ThreadId) (command : Command)
  | metrics (backend : BackendId)
  | resetMetrics (backend : BackendId)
  | activeCount (backend : BackendId)
  deriving DecidableEq, Repr

def Task.backend : Task → BackendId
  | command backend .. | metrics backend | resetMetrics backend | activeCount backend => backend

/-- The value that answers a task. -/
inductive Response where
  | handle (tx : Transaction SessionId)
  | metrics (metrics : Metrics)
  | done
  | count (sessions : Nat)
  | result (op : SessionOp) (value : op.Result)

namespace World

/-- The answer to a task, with its report. -/
def reply (world : World) : Task → Response × ErrorReport
  | .command id thread (.start options) =>
    let answer := world.answer (.start id thread options)
    (.handle answer.1, answer.2)
  | .command id thread .current =>
    let answer := world.answer (.current id thread)
    (.handle answer.1, answer.2)
  | .command id thread (.ask index op) =>
    let tx : Transaction SessionId := ⟨(world.lane id thread)[index]?⟩
    let answer := (((tx.call op : Call World _).run .success).run world).value
    (.result op answer.1, answer.2)
  | .metrics id =>
    let answer := world.answer (.metrics id)
    (.metrics answer.1, answer.2)
  | .resetMetrics id => (.done, (world.answer (.resetMetrics id)).2)
  | .activeCount id => (.count (((world.backend? id).map (·.activeCount)).getD 0), .success)

/-- What a task comes to for the sessions and backends. An unusable handle reaches none of
them, and counting leaves no trace. -/
def request? (world : World) : Task → Option Request
  | .command id thread (.start options) => some (.start id thread options)
  | .command id thread .current => some (.current id thread)
  | .command id thread (.ask index op) => ((world.lane id thread)[index]?).map (.session · op)
  | .metrics id => some (.metrics id)
  | .resetMetrics id => some (.resetMetrics id)
  | .activeCount _ => none

/-- The world after a task. -/
def carryOut (world : World) (task : Task) : World :=
  world.after (world.request? task).toList

/-- Let time pass, and set the calendar. -/
def tick (world : World) (wait : Nat) (time : Timestamp) : World :=
  (world.passTime wait).setCalendar time

end World

/-- A turn: how the clocks move, and then what is asked. -/
structure Turn where
  wait : Nat
  time : Timestamp
  task : Task

/-- A task, and the world in which it is carried out. -/
structure Play where
  before : World
  task : Task

def Play.after (play : Play) : World :=
  play.before.carryOut play.task

def Play.reply (play : Play) : Response × ErrorReport :=
  play.before.reply play.task

def World.playOf (world : World) (turn : Turn) : Play :=
  ⟨world.tick turn.wait turn.time, turn.task⟩

/-- What happens when turns are taken. -/
def World.plays : World → List Turn → List Play
  | _, [] => []
  | world, turn :: rest => world.playOf turn :: (world.playOf turn).after.plays rest

/-- The world when all the turns are taken. -/
def World.played : World → List Turn → World
  | world, [] => world
  | world, turn :: rest => (world.playOf turn).after.played rest

/-- A commit asks for the time where the session is open and active. Nothing else does. -/
def Session.asksTime (session : Session) (op : SessionOp) : Bool :=
  op == .commit && !session.closed && session.state == .active

/-- A commit finds that the session has used up its time. -/
def Session.isLate (session : Session) (stopwatch : Nat) (op : SessionOp) : Bool :=
  session.asksTime op && session.isTimedOut stopwatch

/-- The command is a commit that asks for the time, given what the thread holds. -/
def Command.asksTime (command : Command) (held : List Session) : Bool :=
  match command with
  | ask index op => (held[index]?).any (·.asksTime op)
  | start _ | current => false

/-- The task is a commit that asks for the time. -/
def World.asksTime (world : World) : Task → Bool
  | .command id thread command => command.asksTime (world.held id thread)
  | .metrics _ | .resetMetrics _ | .activeCount _ => false

/-- The task is a commit that comes too late. -/
def World.isLate (world : World) : Task → Bool
  | .command id thread (.ask index op) =>
    ((world.roll id thread)[index]?).any fun entry => entry.2.isLate world.stopwatch op
  | _ => false

/-- Only what asks for the time can be late. -/
theorem World.asksTime_of_isLate {world : World} {task : Task} (hlate : world.isLate task = true) :
    world.asksTime task = true := by
  cases task with
  | command id thread command =>
    cases command with
    | start | current => cases hlate
    | ask index op =>
      rw [asksTime, Command.asksTime, held_getElem?]
      rw [isLate] at hlate
      cases hentry : (world.roll id thread)[index]? with
      | none =>
        rw [hentry] at hlate
        cases hlate
      | some entry =>
        rw [hentry, Option.any_some, Session.isLate, Bool.and_eq_true] at hlate
        exact hlate.1
  | metrics | resetMetrics | activeCount => cases hlate

def Play.asksTime (play : Play) : Bool :=
  play.before.asksTime play.task

def Play.isLate (play : Play) : Bool :=
  play.before.isLate play.task

/-- Reports that are the same, but that one session goes by another name. -/
inductive ReportsAlike (rename : SessionId → SessionId) : ErrorReport → ErrorReport → Prop where
  | same (report : ErrorReport) : ReportsAlike rename report report
  | named (kind : ErrorKind) (session : SessionId) (before after : String) :
      ReportsAlike rename ⟨kind, before ++ session.display ++ after⟩
        ⟨kind, before ++ (rename session).display ++ after⟩

/-- Responses that are the same, but for the names of sessions and for times. -/
inductive Response.Alike (rename : SessionId → SessionId) : Response → Response → Prop where
  | handle (tx : Transaction SessionId) :
      Alike rename (.handle tx) (.handle ⟨tx.session?.map rename⟩)
  | metrics {metrics again : Metrics} (hsame : again.timeless = metrics.timeless) :
      Alike rename (.metrics metrics) (.metrics again)
  | done : Alike rename .done .done
  | count (sessions : Nat) : Alike rename (.count sessions) (.count sessions)
  | result (op : SessionOp) (value : op.Result) : Alike rename (.result op value) (.result op value)

/-- Answers that are the same, but for the names of sessions and for times. -/
structure RepliesAlike (rename : SessionId → SessionId)
    (reply again : Response × ErrorReport) : Prop where
  response : reply.1.Alike rename again.1
  report : ReportsAlike rename reply.2 again.2

namespace Session

/-- Only whether a commit comes too late matters of the time. -/
theorem react_isLate (session : Session) (id : SessionId) (stopwatch : Nat) (op : SessionOp) :
    session.react id (session.isLate stopwatch op) op =
      session.react id (session.isTimedOut stopwatch) op := by
  cases op with
  | commit =>
    cases hclosed : session.closed with
    | true => simp [react, hclosed]
    | false => cases hstate : session.state <;> simp [react, isLate, asksTime, hclosed, hstate]
  | rollback | close | setRollbackOnly | isRollbackOnly | state => rfl

theorem answer_congr {session again : Session} (hsame : again.timeless = session.timeless)
    (op : SessionOp) : again.answer op = session.answer op := by
  have hstate : again.state = session.state := by
    change again.timeless.state = session.timeless.state
    rw [hsame]
  cases op with
  | isRollbackOnly => exact congrArg TxState.isRollbackOnly hstate
  | state => exact hstate
  | commit | rollback | close | setRollbackOnly => rfl

/-- Reactions that are the same, but for the name of the session. -/
structure ReactsAlike (rename : SessionId → SessionId) (reaction again : Reaction) : Prop where
  state : again.state = reaction.state
  closed : again.closed = reaction.closed
  ending : again.ending? = reaction.ending?
  report : ReportsAlike rename (reaction.failure?.getD .success) (again.failure?.getD .success)

theorem ReactsAlike.of_quiet {rename : SessionId → SessionId} {reaction again : Reaction}
    (hstate : again.state = reaction.state) (hclosed : again.closed = reaction.closed)
    (hending : again.ending? = reaction.ending?) (hquiet : reaction.failure? = none)
    (hquiet' : again.failure? = none) : ReactsAlike rename reaction again := by
  refine ⟨hstate, hclosed, hending, ?_⟩
  rw [hquiet, hquiet']
  exact .same _

theorem ReactsAlike.of_failure {rename : SessionId → SessionId} {reaction again : Reaction}
    (hstate : again.state = reaction.state) (hclosed : again.closed = reaction.closed)
    (hending : again.ending? = reaction.ending?) {kind : ErrorKind} {id : SessionId}
    {message : SessionId → String} {before after : String}
    (hmessage : ∀ id, message id = before ++ id.display ++ after)
    (hfailure : reaction.failure? = some ⟨kind, message id⟩)
    (hfailure' : again.failure? = some ⟨kind, message (rename id)⟩) :
    ReactsAlike rename reaction again := by
  refine ⟨hstate, hclosed, hending, ?_⟩
  rw [hfailure, hfailure', Option.getD_some, Option.getD_some, hmessage, hmessage]
  exact .named kind id before after

theorem append_three (start first second third : String) :
    start ++ first ++ second ++ third = start ++ (first ++ second ++ third) := by
  simp only [String.append_assoc]

/-- Every message about a session says the same of it, whatever its name is. -/
theorem closedMessage_eq (id : SessionId) :
    closedMessage id = "transaction " ++ id.display ++ " is closed" := rfl

theorem inactiveMessage_eq (state : TxState) (id : SessionId) :
    inactiveMessage id state = "transaction " ++ id.display ++
      (" is no longer active (state: " ++ state.display ++ ")") :=
  append_three _ _ _ _

theorem timedOutMessage_eq (timeout : Duration) (id : SessionId) :
    timedOutMessage id timeout = "transaction " ++ id.display ++
      (" timed out after " ++ toString timeout.wholeMillis ++ "ms and was rolled back") :=
  append_three _ _ _ _

theorem rolledBackMessage_eq (id : SessionId) :
    rolledBackMessage id =
      "transaction " ++ id.display ++ " was marked rollback-only and has been rolled back" := rfl

theorem react_alike {session again : Session} (hsame : again.timeless = session.timeless)
    (rename : SessionId → SessionId) (id : SessionId) (late : Bool) (op : SessionOp) :
    ReactsAlike rename (session.react id late op) (again.react (rename id) late op) := by
  obtain ⟨options, thread, backend, startedAt, state, closed⟩ := session
  obtain ⟨options', thread', backend', startedAt', state', closed'⟩ := again
  obtain ⟨rfl, rfl, rfl, -, rfl, rfl⟩ := Session.mk.inj hsame
  cases op with
  | commit =>
    simp only [react]
    split
    · exact .of_failure rfl rfl rfl closedMessage_eq rfl rfl
    · split
      · split
        · exact .of_failure rfl rfl rfl (timedOutMessage_eq options'.timeout) rfl rfl
        · exact .of_quiet rfl rfl rfl rfl rfl
      · exact .of_failure rfl rfl rfl rolledBackMessage_eq rfl rfl
      · exact .of_failure rfl rfl rfl (inactiveMessage_eq state') rfl rfl
  | rollback =>
    simp only [react]
    split
    · exact .of_failure rfl rfl rfl closedMessage_eq rfl rfl
    · split
      · exact .of_quiet rfl rfl rfl rfl rfl
      · exact .of_quiet rfl rfl rfl rfl rfl
      · exact .of_quiet rfl rfl rfl rfl rfl
      · exact .of_failure rfl rfl rfl (inactiveMessage_eq state') rfl rfl
  | close =>
    simp only [react]
    split
    · exact .of_quiet rfl rfl rfl rfl rfl
    · split <;> exact .of_quiet rfl rfl rfl rfl rfl
  | setRollbackOnly =>
    simp only [react]
    split
    · exact .of_failure rfl rfl rfl closedMessage_eq rfl rfl
    · split
      · exact .of_quiet rfl rfl rfl rfl rfl
      · exact .of_quiet rfl rfl rfl rfl rfl
      · exact .of_failure rfl rfl rfl (inactiveMessage_eq state') rfl rfl
  | isRollbackOnly | state => exact .of_quiet rfl rfl rfl rfl rfl

/-- What an operation makes of a session does not depend on its name or its time. -/
theorem timeless_after (session : Session) (id : SessionId) (late : Bool) (op : SessionOp) :
    (session.after (session.react id late op)).timeless =
      session.timeless.after (session.timeless.react ⟨0⟩ late op) := by
  have hsame : session.timeless.timeless = session.timeless := rfl
  have halike := react_alike hsame (fun _ => ⟨0⟩) id late op
  simp only [after, timeless, Session.mk.injEq, true_and]
  exact ⟨halike.state.symm, halike.closed.symm⟩

end Session

namespace Command

/-- What a thread holds at a backend after a command, if a commit comes too late or if it
does not. -/
def advance (command : Command) (id : BackendId) (thread : ThreadId) (held : List Session)
    (late : Bool) : List Session :=
  match command with
  | start options =>
    if held.any (·.state.isActive) then held
    else held ++ [⟨options, thread, id, 0, .active, false⟩]
  | current => held
  | ask index op => held.modify index fun session => session.after (session.react ⟨0⟩ late op)

/-- How a command brings a session to its end, if it does so. -/
def ending? (command : Command) (held : List Session) (late : Bool) : Option Ending :=
  match command with
  | ask index op => (held[index]?).bind fun session => (session.react ⟨0⟩ late op).ending?
  | start _ | current => none

end Command

namespace World

variable {world : World} {id : BackendId} {thread : ThreadId} {task : Task}

/-- The backend is live, in a world as it can be. -/
structure Ready (world : World) (id : BackendId) : Prop where
  inv : world.Inv
  live : ∃ backend, world.backend? id = some backend ∧ backend.live = true

theorem request?_isAllowed (world : World) (task : Task) (inUse : List BackendId) :
    ∀ request ∈ (world.request? task).toList, request.isAllowed inUse = true := by
  intro request hrequest
  rw [Option.mem_toList] at hrequest
  cases task with
  | command id thread command =>
    cases command with
    | start | current => cases hrequest; rfl
    | ask index op =>
      obtain ⟨session, -, rfl⟩ := Option.map_eq_some_iff.1 hrequest
      rfl
  | metrics | resetMetrics => cases hrequest; rfl
  | activeCount => cases hrequest

theorem Ready.carryOut (hready : world.Ready id) (task : Task) :
    (world.carryOut task).Ready id := by
  obtain ⟨hinv, backend, hbackend, hlive⟩ := hready
  exact ⟨hinv.after _,
    live_after hbackend hlive List.mem_cons_self (world.request?_isAllowed task [id])⟩

theorem Ready.tick (hready : world.Ready id) (wait : Nat) (time : Timestamp) :
    (world.tick wait time).Ready id :=
  ⟨hready.inv.after [.around (.passTime wait), .around (.setCalendar time)], hready.live⟩

/-- A task is one request, or none. -/
theorem carryOut_of_some {request : Request} (hrequest : world.request? task = some request) :
    world.carryOut task = world.next request := by
  rw [carryOut, hrequest]
  rfl

theorem carryOut_of_none (hrequest : world.request? task = none) :
    world.carryOut task = world := by
  rw [carryOut, hrequest]
  rfl

theorem lane_carryOut (world : World) (task : Task) (id : BackendId) (thread : ThreadId) :
    world.lane id thread <+: (world.carryOut task).lane id thread := by
  cases hrequest : world.request? task with
  | none =>
    rw [carryOut_of_none hrequest]
  | some request =>
    rw [carryOut_of_some hrequest]
    exact (step_next world request).lane id thread

/-- The session at a place, asked through a handle. -/
theorem carryOut_ask {index : Nat} {session : SessionId} {found : Session}
    (hentry : (world.roll id thread)[index]? = some (session, found)) (op : SessionOp) :
    world.carryOut (.command id thread (.ask index op)) =
      world.respond session found (found.react session (found.isLate world.stopwatch op) op) := by
  have hrequest : world.request? (.command id thread (.ask index op)) =
      some (.session session op) := by
    rw [request?, lane_getElem?_iff.2 ⟨found, hentry⟩]
    rfl
  rw [carryOut_of_some hrequest, next_session, run_perform (of_roll_getElem? hentry).1,
    found.react_isLate]

theorem request?_ask_of_none {index : Nat} (hentry : (world.roll id thread)[index]? = none)
    (op : SessionOp) : world.request? (.command id thread (.ask index op)) = none := by
  rw [request?, lane_getElem?_eq_none hentry]
  rfl

/-- A thread's sessions at a backend are left alone by all that it does not ask for
there. -/
theorem roll_carryOut_of_ne (hother : ∀ command, task ≠ .command id thread command) :
    (world.carryOut task).roll id thread = world.roll id thread := by
  cases task with
  | command origin starter command =>
    cases command with
    | start options =>
      have hne : ¬ (origin = id ∧ starter = thread) := by
        rintro ⟨rfl, rfl⟩
        exact hother _ rfl
      rw [carryOut_of_some rfl]
      generalize hnext : world.next (.start origin starter options) = next
      have hstep := step_next world (.start origin starter options)
      rw [hnext] at hstep
      cases hstep with
      | started => rw [roll_enroll, if_neg hne, List.append_nil]
      | refused | absent => rfl
    | current => rfl
    | ask index op =>
      cases hentry : (world.roll origin starter)[index]? with
      | none => rw [carryOut_of_none (request?_ask_of_none hentry op)]
      | some entry =>
        obtain ⟨session, found⟩ := entry
        obtain ⟨hfound, horigin, hstarter⟩ := of_roll_getElem? hentry
        rw [carryOut_ask hentry, roll_respond hfound]
        refine (List.map_congr_left fun entry hmem => ?_).trans (List.map_id _)
        refine if_neg fun hasked => hother (.ask index op) ?_
        obtain ⟨asked, again⟩ := entry
        obtain rfl : asked = session := hasked
        obtain ⟨hagain, hid, hthread⟩ := mem_roll_iff.1 hmem
        obtain rfl : again = found := Option.some.inj (hagain.symm.trans hfound)
        rw [← hid, ← hthread, horigin, hstarter]
  | metrics | activeCount => rfl
  | resetMetrics => rfl

/-- What a thread holds after a command follows from what it held before, and from the
verdict on its time. -/
theorem Ready.held_carryOut (hready : world.Ready id) (thread : ThreadId) (command : Command) :
    (world.carryOut (.command id thread command)).held id thread =
      command.advance id thread (world.held id thread)
        (world.isLate (.command id thread command)) := by
  obtain ⟨hinv, backend, hbackend, hlive⟩ := hready
  cases command with
  | start options =>
    have hany := hinv.any_held hbackend hlive thread
    rw [carryOut_of_some rfl, Command.advance, hany]
    cases hfind : backend.bound.find? thread with
    | none =>
      rw [next_start_of_free hbackend hfind, held_enroll]
      rfl
    | some existing =>
      rw [next_start, run_start_of_bound hbackend hfind]
      rfl
  | current => rfl
  | ask index op =>
    rw [Command.advance, isLate]
    cases hentry : (world.roll id thread)[index]? with
    | none =>
      have hshort : (world.held id thread).length ≤ index := by
        rw [held, List.length_map]
        exact List.getElem?_eq_none_iff.1 hentry
      rw [carryOut_of_none (request?_ask_of_none hentry op), List.modify_eq_self hshort]
    | some entry =>
      obtain ⟨session, found⟩ := entry
      obtain ⟨hfound, -, -⟩ := of_roll_getElem? hentry
      rw [carryOut_ask hentry, Option.any_some]
      generalize found.isLate world.stopwatch op = late
      refine List.ext_getElem? fun place => ?_
      rw [held_getElem?, roll_respond hfound, List.getElem?_modify, held_getElem?,
        List.getElem?_map]
      cases hplace : (world.roll id thread)[place]? with
      | none => rfl
      | some entry =>
        by_cases hsame : index = place
        · subst hsame
          obtain rfl : (session, found) = entry := Option.some.inj (hentry.symm.trans hplace)
          simp [Session.timeless_after]
        · have hother : entry.1 ≠ session := by
            rintro rfl
            exact hsame (roll_index_unique hentry hplace)
          simp [hsame, hother]

section Replies

variable {other : World} {rename : SessionId → SessionId}

/-- A refused start names the session that is in its way. -/
theorem reportsAlike_alreadyStarted (rename : SessionId → SessionId) (existing : SessionId) :
    ReportsAlike rename ⟨.illegalState, alreadyStartedMessage existing⟩
      ⟨.illegalState, alreadyStartedMessage (rename existing)⟩ := by
  have hmessage (session : SessionId) : alreadyStartedMessage session =
      "a transaction has already been started by the current thread: " ++
        session.display ++ "" := by
    rw [String.append_empty]
    rfl
  rw [hmessage, hmessage]
  exact .named _ _ _ _

/-- The new sessions of two worlds go by the same name. -/
theorem Renames.nextSession {options : TxOptions}
    (hrenames : (world.enroll id thread options).Renames (other.enroll id thread options) id
      thread rename) : other.nextSession = rename world.nextSession := by
  have hlane := hrenames.lane
  rw [lane_enroll, lane_enroll, List.map_append] at hlane
  obtain ⟨hnew, -⟩ := List.cons.inj (List.append_inj_right' hlane rfl)
  exact hnew

theorem Renames.reply_start {options : TxOptions} (hworld : world.Ready id)
    (hother : other.Ready id) (hbefore : world.Renames other id thread rename)
    (hafter : (world.carryOut (.command id thread (.start options))).Renames
      (other.carryOut (.command id thread (.start options))) id thread rename) :
    RepliesAlike rename (world.reply (.command id thread (.start options)))
      (other.reply (.command id thread (.start options))) := by
  obtain ⟨hinv, backend, hbackend, hlive⟩ := hworld
  obtain ⟨hinv', again, hagain, hlive'⟩ := hother
  have hbound := hbefore.find? hinv hinv' hbackend hlive hagain hlive'
  rw [reply, reply, answer_start, answer_start]
  cases hfind : backend.bound.find? thread with
  | none =>
    rw [hfind, Option.map_none] at hbound
    rw [carryOut_of_some rfl, carryOut_of_some rfl, next_start_of_free hbackend hfind,
      next_start_of_free hagain hbound] at hafter
    rw [run_start_of_free hbackend hfind, run_start_of_free hagain hbound, hafter.nextSession]
    exact ⟨.handle ⟨some world.nextSession⟩, .same _⟩
  | some existing =>
    rw [hfind, Option.map_some] at hbound
    rw [run_start_of_bound hbackend hfind, run_start_of_bound hagain hbound]
    exact ⟨.handle ⟨none⟩, reportsAlike_alreadyStarted rename existing⟩

theorem Renames.reply_current (hworld : world.Ready id) (hother : other.Ready id)
    (hrenames : world.Renames other id thread rename) :
    RepliesAlike rename (world.reply (.command id thread .current))
      (other.reply (.command id thread .current)) := by
  obtain ⟨hinv, backend, hbackend, hlive⟩ := hworld
  obtain ⟨hinv', again, hagain, hlive'⟩ := hother
  have hreply (world : World) : world.reply (.command id thread .current) =
      (.handle ⟨(world.backend? id).bind (·.bound.find? thread)⟩, .success) := rfl
  rw [hreply, hreply, hbackend, hagain, Option.bind_some, Option.bind_some,
    hrenames.find? hinv hinv' hbackend hlive hagain hlive']
  exact ⟨.handle _, .same _⟩

theorem Renames.reply_ask {index : Nat} {op : SessionOp}
    (hrenames : world.Renames other id thread rename)
    (hlate : other.isLate (.command id thread (.ask index op)) =
      world.isLate (.command id thread (.ask index op))) :
    RepliesAlike rename (world.reply (.command id thread (.ask index op)))
      (other.reply (.command id thread (.ask index op))) := by
  cases hentry : (world.roll id thread)[index]? with
  | none =>
    have hnone : (world.lane id thread)[index]? = none := lane_getElem?_eq_none hentry
    have hnone' : (other.lane id thread)[index]? = none := by
      rw [hrenames.lane, List.getElem?_map, hnone]
      rfl
    rw [reply, reply, hnone, hnone']
    exact ⟨.result op op.noResult, .same .notUsable⟩
  | some entry =>
    obtain ⟨session, found⟩ := entry
    obtain ⟨again, hagain, hsame⟩ := hrenames.exists_getElem? hentry
    have hreply {world : World} {session : SessionId} {found : Session}
        (hentry : (world.roll id thread)[index]? = some (session, found)) :
        world.reply (.command id thread (.ask index op)) =
          (.result op (found.answer op),
            ((found.react session (found.isLate world.stopwatch op) op).failure?).getD
            .success) := by
      have hasked : world.reply (.command id thread (.ask index op)) =
          (.result op (world.answer (.session session op)).1,
            (world.answer (.session session op)).2) := by
        rw [reply, lane_getElem?_iff.2 ⟨found, hentry⟩]
        rfl
      rw [hasked, answer_session, run_perform (of_roll_getElem? hentry).1, found.react_isLate]
    have hverdict : again.isLate other.stopwatch op = found.isLate world.stopwatch op := by
      rw [isLate, isLate, hentry, hagain] at hlate
      exact hlate
    rw [hreply hentry, hreply hagain, hverdict, Session.answer_congr hsame]
    exact ⟨.result op _, (Session.react_alike hsame rename session _ op).report⟩

/-- Worlds that agree about a thread answer its command alike, if they pass the same
verdict on a commit. -/
theorem Renames.repliesAlike {command : Command} (hworld : world.Ready id)
    (hother : other.Ready id) (hbefore : world.Renames other id thread rename)
    (hafter : (world.carryOut (.command id thread command)).Renames
      (other.carryOut (.command id thread command)) id thread rename)
    (hlate : other.isLate (.command id thread command) =
      world.isLate (.command id thread command)) :
    RepliesAlike rename (world.reply (.command id thread command))
      (other.reply (.command id thread command)) := by
  cases command with
  | start options => exact hbefore.reply_start hworld hother hafter
  | current => exact hbefore.reply_current hworld hother
  | ask index op => exact hbefore.reply_ask hlate

end Replies

end World

end Local

end TxClient
