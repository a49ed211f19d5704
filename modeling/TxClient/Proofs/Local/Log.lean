import Mathlib.Data.List.Nodup
import TxClient.Proofs.Trace
import TxClient.Proofs.Local.Accounting
import TxClient.Proofs.Local.Finality
import TxClient.Proofs.Local.Within

/-!
Where the events about sessions come from. Each is caused at a moment, by a start or by
the reaction of a session, and a program logs about sessions just what is caused at the
moments of its history, in the bodies of its transactions too.
-/

namespace TxClient.Local

/-- What is said in a log about sessions. -/
def trail (log : List Event) : List Event :=
  log.filter (·.tx?.isSome)

/-- What is said in a log about one session. -/
def trailOf (id : SessionId) (log : List Event) : List Event :=
  log.filter (·.tx? == some id)

/-- The changes of a session that are in a log, from which state and to which. -/
def changesOf (id : SessionId) (log : List Event) : List (TxState × TxState) :=
  log.filterMap fun
    | .stateChange tx source target => if tx = id then some (source, target) else none
    | _ => none

/-- A warning that a session has timed out comes right after the change in which the
session was rolled back. -/
def TimesOutInOrder (log : List Event) : Prop :=
  ∀ first id last, log = first ++ .timedOut id :: last →
    [.stateChange id .active .rolledBack] <:+ first

section Logs

variable {id : SessionId} {log more : List Event}

@[simp] theorem trail_append : trail (log ++ more) = trail log ++ trail more :=
  List.filter_append ..

@[simp] theorem trailOf_append : trailOf id (log ++ more) = trailOf id log ++ trailOf id more :=
  List.filter_append ..

@[simp] theorem trail_forwarding (op : Operation) (log : List Event) :
    trail (.forwarding op :: log) = trail log := rfl

theorem trail_eq_self (hlog : ∀ event ∈ log, event.tx? = some id) : trail log = log := by
  refine List.filter_eq_self.2 fun event hmem => ?_
  rw [hlog event hmem]
  rfl

theorem trailOf_trail (id : SessionId) (log : List Event) :
    trailOf id (trail log) = trailOf id log := by
  rw [trailOf, trail, List.filter_filter]
  congr 1
  funext event
  cases event.tx? <;> simp

theorem trailOf_eq_self (hlog : ∀ event ∈ log, event.tx? = some id) : trailOf id log = log :=
  List.filter_eq_self.2 fun event hmem => beq_iff_eq.2 (hlog event hmem)

theorem trailOf_eq_nil_of_ne {other : SessionId} (hlog : ∀ event ∈ log, event.tx? = some other)
    (hother : id ≠ other) : trailOf id log = [] := by
  refine List.filter_eq_nil_iff.2 fun event hmem => ?_
  rw [hlog event hmem, beq_iff_eq, Option.some.injEq]
  exact Ne.symm hother

theorem changesOf_trailOf (id : SessionId) (log : List Event) :
    changesOf id (trailOf id log) = changesOf id log := by
  rw [changesOf, trailOf, List.filterMap_filter]
  congr 1
  funext event
  cases event <;> simp [Event.tx?]

theorem TimesOutInOrder.of_silent (hlog : ∀ event ∈ log, event.tx? = none) :
    TimesOutInOrder log := by
  rintro first id last rfl
  cases hlog (.timedOut id) (List.mem_append_right _ List.mem_cons_self)

theorem timesOutInOrder_nil : TimesOutInOrder [] :=
  .of_silent (List.forall_mem_nil _)

theorem TimesOutInOrder.append (hlog : TimesOutInOrder log) (hmore : TimesOutInOrder more) :
    TimesOutInOrder (log ++ more) := by
  intro first id last hsplit
  rcases List.append_eq_append_iff.1 hsplit with ⟨later, rfl, hlater⟩ | ⟨rest, hfirst, hrest⟩
  · exact (hmore later id last hlater).trans (List.suffix_append _ _)
  · cases rest with
    | nil =>
      -- the warning would be the first of the later events
      obtain ⟨earlier, hearlier⟩ := hmore [] id last hrest.symm
      simp at hearlier
    | cons event rest =>
      obtain ⟨rfl, -⟩ := List.cons_eq_cons.1 hrest
      exact hlog first id rest hfirst

end Logs

namespace Reaction

/-- The kind of what a reaction reports. -/
def kind (reaction : Reaction) : ErrorKind :=
  (reaction.failure?.getD .success).kind

/-- The events of a reaction tell how the state of the session has changed, and that the
session has used up its time. -/
def TellsAll (reaction : Reaction) (id : SessionId) (source : TxState) : Prop :=
  reaction.events =
    (if reaction.state = source then [] else [.stateChange id source reaction.state]) ++
      (if reaction.kind = .txTimeout then [.timedOut id] else [])

variable {reaction : Reaction} {id : SessionId} {source : TxState}

theorem TellsAll.of_unchanged (hstate : reaction.state = source) (hevents : reaction.events = [])
    (hkind : (reaction.kind == .txTimeout) = false) : reaction.TellsAll id source := by
  rw [TellsAll, if_pos hstate, if_neg (beq_eq_false_iff_ne.1 hkind), hevents]
  rfl

theorem TellsAll.of_changed (hstate : reaction.state ≠ source)
    (hevents : reaction.events = [.stateChange id source reaction.state])
    (hkind : (reaction.kind == .txTimeout) = false) : reaction.TellsAll id source := by
  rw [TellsAll, if_neg hstate, if_neg (beq_eq_false_iff_ne.1 hkind), hevents]
  rfl

end Reaction

namespace Session

variable {session : Session} {id : SessionId} {late : Bool} {op : SessionOp}

theorem tellsAll_expire (hactive : session.state = .active) :
    (session.expire id).TellsAll id session.state := by
  rw [Reaction.TellsAll, hactive]
  simp [expire, finish, Reaction.kind, Ending.state, hactive]

/-- A session that changes its state says so, and says nothing else but that it has used
up its time. -/
theorem tellsAll_react (session : Session) (id : SessionId) (late : Bool) (op : SessionOp) :
    (session.react id late op).TellsAll id session.state := by
  -- a state that a session can only have while it runs is not one that it ends in
  have hended {target : TxState} (hactive : session.state.isActive = true)
      (htarget : target.isActive = false) : target ≠ session.state := by
    rintro rfl
    rw [hactive] at htarget
    cases htarget
  cases op with
  | commit =>
    simp only [react]
    split
    · exact .of_unchanged rfl rfl rfl
    · split
      · next hstate =>
        split
        · exact tellsAll_expire hstate
        · exact .of_changed (hended (by rw [hstate]; rfl) rfl) rfl rfl
      · next hstate => exact .of_changed (hended (by rw [hstate]; rfl) rfl) rfl rfl
      · exact .of_unchanged rfl rfl rfl
  | rollback =>
    simp only [react]
    split
    · exact .of_unchanged rfl rfl rfl
    · split
      · next hstate => exact .of_changed (hended (by rw [hstate]; rfl) rfl) rfl rfl
      · next hstate => exact .of_changed (hended (by rw [hstate]; rfl) rfl) rfl rfl
      · exact .of_unchanged rfl rfl rfl
      · exact .of_unchanged rfl rfl rfl
  | close =>
    simp only [react]
    split
    · exact .of_unchanged rfl rfl rfl
    · split
      · next hactive => exact .of_changed (hended hactive rfl) rfl rfl
      · exact .of_unchanged rfl rfl rfl
  | setRollbackOnly =>
    simp only [react]
    split
    · exact .of_unchanged rfl rfl rfl
    · split
      · next hstate =>
        refine .of_changed ?_ rfl rfl
        rw [hstate]
        exact TxState.noConfusion
      · exact .of_unchanged rfl rfl rfl
      · exact .of_unchanged rfl rfl rfl
  | isRollbackOnly | state => exact .of_unchanged rfl rfl rfl

theorem events_react (session : Session) (id : SessionId) (late : Bool) (op : SessionOp) :
    let reaction := session.react id late op
    reaction.events =
      (if reaction.state = session.state then []
        else [.stateChange id session.state reaction.state]) ++
      (if reaction.kind = .txTimeout then [.timedOut id] else []) :=
  session.tellsAll_react id late op

theorem tx?_of_mem_events_react {event : Event}
    (hmem : event ∈ (session.react id late op).events) : event.tx? = some id := by
  rw [events_react] at hmem
  rcases List.mem_append.1 hmem with hmem | hmem
  · split at hmem
    · cases hmem
    · rw [List.mem_singleton.1 hmem]
      rfl
  · split at hmem
    · rw [List.mem_singleton.1 hmem]
      rfl
    · cases hmem

/-- Only a commit finds that a session has used up its time, and then it is rolled
back. -/
theorem react_of_txTimeout (hkind : (session.react id late op).kind = .txTimeout) :
    op = .commit ∧ session.state = .active ∧ (session.react id late op).state = .rolledBack := by
  cases op with
  | commit =>
    simp only [react] at hkind ⊢
    split at hkind
    · cases hkind
    · next hclosed =>
      split at hkind
      · next hstate =>
        split at hkind
        · next hlate => simp [hclosed, hstate, hlate, expire, finish, Ending.state]
        · cases hkind
      · cases hkind
      · cases hkind
  | rollback | setRollbackOnly =>
    simp only [react] at hkind
    split at hkind
    · cases hkind
    · split at hkind <;> cases hkind
  | close =>
    simp only [react] at hkind
    split at hkind
    · cases hkind
    · split at hkind <;> cases hkind
  | isRollbackOnly | state => cases hkind

theorem timesOutInOrder_react (session : Session) (id : SessionId) (late : Bool) (op : SessionOp) :
    TimesOutInOrder (session.react id late op).events := by
  intro first other last hsplit
  rw [events_react] at hsplit
  split at hsplit
  · next hsame =>
    split at hsplit
    · next hkind =>
      obtain ⟨-, hactive, hended⟩ := react_of_txTimeout hkind
      rw [hended, hactive] at hsame
      cases hsame
    · simp at hsplit
  · split at hsplit
    · next hkind =>
      obtain ⟨-, hactive, hended⟩ := react_of_txTimeout hkind
      rw [hended, hactive] at hsplit
      cases first with
      | nil => simp at hsplit
      | cons event rest =>
        cases rest with
        | nil =>
          simp only [List.cons_append, List.nil_append, List.cons.injEq, Event.timedOut.injEq]
            at hsplit
          obtain ⟨rfl, rfl, -⟩ := hsplit
          exact List.suffix_refl _
        | cons => simp at hsplit
    · cases first <;> simp at hsplit

end Session

/-- The events of a moment, in the order in which they are caused. -/
def Moment.events (moment : Moment) : List Event :=
  ((moment.request.call.run .success).run moment.before).events

/-- The log of a history. -/
def logged (past : List Moment) : List Event :=
  past.flatMap Moment.events

theorem logged_concat (past : List Moment) (moment : Moment) :
    logged (past ++ [moment]) = logged past ++ moment.events := by
  simp [logged]

namespace World

variable {world : World}

theorem events_session {id : SessionId} {session : Session}
    (hsession : world.session? id = some session) (op : SessionOp) :
    (⟨world, .session id op⟩ : Moment).events =
      .forwarding (.session op) ::
        (session.react id (session.isTimedOut world.stopwatch) op).events := by
  have hevents : (⟨world, .session id op⟩ : Moment).events =
      .forwarding (.session op) :: (((perform id op).run .success).run world).events := rfl
  rw [hevents, run_perform hsession]

theorem events_session_of_none {id : SessionId} (hnone : world.session? id = none)
    (op : SessionOp) :
    (⟨world, .session id op⟩ : Moment).events = [.forwarding (.session op)] := by
  have hevents : (⟨world, .session id op⟩ : Moment).events =
      .forwarding (.session op) :: (((perform id op).run .success).run world).events := rfl
  rw [hevents, run_perform_of_none hnone]

theorem events_start (id : BackendId) (thread : ThreadId) (options : TxOptions) :
    (⟨world, .start id thread options⟩ : Moment).events =
      startEvents options ++ (((start id thread options).run .success).run world).events := by
  let txs : Transactions BackendId := ⟨some id, .standard⟩
  have hevents : (⟨world, .start id thread options⟩ : Moment).events =
      (((txs.callStartWith thread options : Call World _).run .success).run world).events := rfl
  rw [hevents, Transactions.run_callStartWith rfl, backends_start]
  rfl

/-- What a request does to the sessions and what it logs about them go together: nothing,
the start of a session, or the reaction of one that is asked. -/
inductive Audited (world : World) : Request → World → List Event → Prop where
  | quiet {request : Request} {after : World} (hsessions : after.session? = world.session?) :
      Audited world request after []
  | started {id : BackendId} {thread : ThreadId} {options : TxOptions} :
      Audited world (.start id thread options) (world.enroll id thread options)
        [.started world.nextSession]
  | asked {id : SessionId} {session : Session} (op : SessionOp)
      (hsession : world.session? id = some session) :
      Audited world (.session id op)
        (world.respond id session (session.react id (session.isTimedOut world.stopwatch) op))
        (session.react id (session.isTimedOut world.stopwatch) op).events

theorem audited (world : World) (request : Request) :
    world.Audited request (world.next request) (trail (⟨world, request⟩ : Moment).events) := by
  cases request with
  | start id thread options =>
    rw [events_start]
    cases hbackend : world.backend? id with
    | none =>
      rw [run_start_of_none hbackend, next_start, run_start_of_none hbackend]
      exact .quiet rfl
    | some backend =>
      cases hbound : backend.bound.find? thread with
      | none =>
        rw [run_start_of_free hbackend hbound, next_start_of_free hbackend hbound]
        exact .started
      | some existing =>
        rw [run_start_of_bound hbackend hbound, next_start, run_start_of_bound hbackend hbound]
        exact .quiet rfl
  | session id op =>
    cases hsession : world.session? id with
    | none =>
      rw [events_session_of_none hsession, next_session, run_perform_of_none hsession]
      exact .quiet rfl
    | some session =>
      have hevents : trail (⟨world, .session id op⟩ : Moment).events =
          (session.react id (session.isTimedOut world.stopwatch) op).events := by
        rw [events_session hsession, trail_forwarding]
        exact trail_eq_self fun event hmem => Session.tx?_of_mem_events_react hmem
      rw [hevents, next_session, run_perform hsession]
      exact .asked op hsession
  | current | metrics | resetMetrics => exact .quiet rfl
  | around change => exact .quiet (session?_apply change world)

end World

section Recording

/-- A journal goes on with moments that log just what is caused about sessions. -/
structure Journal.Records (journal : Journal) (events : List Event) (later : Journal) :
    Prop where
  noted : ∃ noted, later.history = journal.history ++ noted ∧ trail (logged noted) = trail events
  order : TimesOutInOrder events

namespace Journal.Records

theorem idle {events : List Event} (journal : Journal)
    (hevents : ∀ event ∈ events, event.tx? = none) : journal.Records events journal := by
  refine ⟨⟨[], (List.append_nil _).symm, ?_⟩, .of_silent hevents⟩
  refine (List.filter_eq_nil_iff.2 fun event hmem => ?_).symm
  rw [hevents event hmem]
  exact nofun

theorem trans {first middle last : Journal} {events more : List Event}
    (hfirst : first.Records events middle) (hsecond : middle.Records more last) :
    first.Records (events ++ more) last := by
  obtain ⟨⟨noted, hnoted, htrail⟩, horder⟩ := hfirst
  obtain ⟨⟨later, hlater, htrail'⟩, horder'⟩ := hsecond
  refine ⟨⟨noted ++ later, ?_, ?_⟩, horder.append horder'⟩
  · rw [hlater, hnoted, List.append_assoc]
  · rw [logged, List.flatMap_append, trail_append, trail_append]
    exact congrArg₂ _ htrail htrail'

theorem note {α : Type} {request : Request} {action : Action World α}
    (htrail : ∀ world, trail (⟨world, request⟩ : Moment).events = trail (action.run world).events)
    (horder : ∀ world, TimesOutInOrder (action.run world).events) :
    Action.Traced Records (Journal.note request action) := by
  intro journal
  refine ⟨⟨[⟨journal.world, request⟩], rfl, ?_⟩, horder journal.world⟩
  rw [logged, List.flatMap_singleton]
  exact htrail journal.world

theorem note_perform (id : SessionId) (op : SessionOp) (report : ErrorReport) :
    Action.Traced Records (Journal.note (.session id op) ((perform id op).run report)) := by
  refine note (fun world => ?_) fun world => ?_
  · cases hsession : world.session? id with
    | none =>
      rw [World.events_session_of_none hsession, run_perform_of_none hsession]
      rfl
    | some session =>
      rw [World.events_session hsession, run_perform hsession]
      rfl
  · cases hsession : world.session? id with
    | none =>
      rw [run_perform_of_none hsession]
      exact timesOutInOrder_nil
    | some session =>
      rw [run_perform hsession]
      exact session.timesOutInOrder_react id _ op

theorem note_start (id : BackendId) (thread : ThreadId) (options : TxOptions)
    (report : ErrorReport) :
    Action.Traced Records
      (Journal.note (.start id thread options) ((start id thread options).run report)) := by
  have hevents (world : World) :
      (((start id thread options).run report).run world).events =
        (((start id thread options).run .success).run world).events ∧
      TimesOutInOrder (((start id thread options).run .success).run world).events := by
    cases hbackend : world.backend? id with
    | none =>
      rw [run_start_of_none hbackend, run_start_of_none hbackend]
      exact ⟨rfl, timesOutInOrder_nil⟩
    | some backend =>
      cases hbound : backend.bound.find? thread with
      | none =>
        rw [run_start_of_free hbackend hbound, run_start_of_free hbackend hbound]
        refine ⟨rfl, ?_⟩
        intro first other last hsplit
        cases first <;> simp at hsplit
      | some existing =>
        rw [run_start_of_bound hbackend hbound, run_start_of_bound hbackend hbound]
        exact ⟨rfl, timesOutInOrder_nil⟩
  refine note (fun world => ?_) fun world => ?_
  · rw [World.events_start, trail_append, (hevents world).1]
    rfl
  · rw [(hevents world).1]
    exact (hevents world).2

theorem tracing : Tracing Records :=
  ⟨idle, trans⟩

theorem tracedBy : TracedBy Records BackendId SessionId where
  toTracing := tracing
  perform id op report := note_perform id op report
  start backend thread options report := note_start backend thread options report

theorem call (request : Request) : Call.Traced Records (request.call : Call Journal _) := by
  cases request with
  | start backend thread options => exact tracedBy.callStartWith _ thread options
  | current backend thread =>
    unfold Request.call Transactions.callCurrent
    refine tracing.forward .getTx (some backend) fun backend => ?_
    refine tracing.callBind (fun report => ?_) fun _ => fun _ => tracing.pure _
    exact note (fun _ => rfl) fun _ => timesOutInOrder_nil
  | metrics backend =>
    refine tracing.forward .metrics (some backend) fun backend report => ?_
    exact note (fun _ => rfl) fun _ => timesOutInOrder_nil
  | resetMetrics backend =>
    refine tracing.forward .resetMetrics (some backend) fun backend report => ?_
    exact note (fun _ => rfl) fun _ => timesOutInOrder_nil
  | session id op =>
    unfold Request.call Transaction.call
    exact tracing.forward (.session op) (some id) fun session => tracedBy.perform session op
  | around change =>
    intro report
    refine tracing.bind ?_ fun _ => tracing.pure _
    exact note (fun _ => rfl) fun _ => timesOutInOrder_nil

theorem run {ρ : Type} (program : Program ρ) :
    ∀ inUse, Attempt.Traced Records (program.run inUse : Attempt Journal ρ) := by
  induction program with
  | done result => exact fun _ => tracing.pure result
  | ask request next ih =>
    intro inUse
    refine tracing.bind ?_ fun answer => ih answer inUse
    unfold Request.submit
    split
    · exact call request .success
    · exact tracing.pure _
  | within txs thread options body next hbody hnext =>
    intro inUse
    refine tracing.bind ?_ fun result => hnext result inUse
    exact tracedBy.transactWith txs thread options fun tx => hbody tx _

end Journal.Records

end Recording

/-- All that a program logs about sessions is logged at the moments of its history. -/
theorem Program.trail_events {ρ : Type} (program : Program ρ) :
    let run := (program.run [] : Attempt World ρ).run.run World.initial
    trail run.events = trail (logged program.history) ∧ TimesOutInOrder run.events := by
  obtain ⟨⟨noted, hnoted, htrail⟩, horder⟩ := Journal.Records.run program [] ⟨World.initial, []⟩
  obtain ⟨-, hevents, -⟩ := program.run_explained [] World.initial
  have hhistory : program.history = noted := hnoted
  intro run
  rw [hevents, hhistory]
  exact ⟨htrail.symm, horder⟩

end TxClient.Local
