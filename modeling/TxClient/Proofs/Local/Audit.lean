import TxClient.Proofs.Local.Log

/-!
The log held against the world. Read for one session it is the course that led to the
state of the session; read for one backend it has the ends that the counters show; and it
warns of nothing but commits that come too late.
-/

namespace TxClient.Local

/-- The changes that a session can have gone through when it is in a state. -/
inductive Course : TxState → List (TxState × TxState) → Prop where
  | running : Course .active []
  | marked : Course .markedRollbackOnly [(.active, .markedRollbackOnly)]
  | ended {target : TxState} (htarget : target.isActive = false) :
      Course target [(.active, target)]
  | endedMarked {target : TxState} (htarget : target.isActive = false) :
      Course target [(.active, .markedRollbackOnly), (.markedRollbackOnly, target)]

theorem Course.concat {source target : TxState} {changes : List (TxState × TxState)}
    (hcourse : Course source changes)
    (hmoves : source = .active ∧ target = .markedRollbackOnly ∨
      source.isActive = true ∧ target.isActive = false) :
    Course target (changes ++ [(source, target)]) := by
  cases hcourse with
  | running =>
    rcases hmoves with ⟨-, rfl⟩ | ⟨-, htarget⟩
    · exact .marked
    · exact .ended htarget
  | marked =>
    rcases hmoves with ⟨hsource, -⟩ | ⟨-, htarget⟩
    · cases hsource
    · exact .endedMarked htarget
  | ended hended | endedMarked hended =>
    rcases hmoves with ⟨rfl, -⟩ | ⟨hsource, -⟩
    · cases hended
    · rw [hended] at hsource
      cases hsource

/-- The log tells of a session that it was started, and which course it has taken since. -/
structure Recorded (log : List Event) (id : SessionId) (state : TxState) : Prop where
  started : ∃ rest, trailOf id log = .started id :: rest ∧ .started id ∉ rest
  course : Course state (changesOf id log)

/-- The log of a session that is in the state. First of all the session was started, and
that only once. Its changes begin where it began and end where it is, each goes on from
the last, and there are two of them at most. -/
structure Chronicles (log : List Event) (id : SessionId) (state : TxState) : Prop where
  started : ∃ rest, trailOf id log = .started id :: rest ∧ .started id ∉ rest
  begins : ∀ change, (changesOf id log).head? = some change → change.1 = .active
  chained : (changesOf id log).IsChain fun earlier later => later.1 = earlier.2
  length_le : (changesOf id log).length ≤ 2
  ends : ∀ change, (changesOf id log).getLast? = some change → change.2 = state
  unchanged : changesOf id log = [] ↔ state = .active

section Chronicles

variable {log more : List Event} {id : SessionId} {state : TxState}

theorem Recorded.chronicles (hrecorded : Recorded log id state) : Chronicles log id state := by
  obtain ⟨hstarted, hcourse⟩ := hrecorded
  generalize hchanges : changesOf id log = changes at hcourse
  cases hcourse with
  | running => exact ⟨hstarted, by simp [hchanges], by simp [hchanges], by simp [hchanges],
      by simp [hchanges], by simp [hchanges]⟩
  | marked => exact ⟨hstarted, by simp [hchanges], by simp [hchanges], by simp [hchanges],
      by simp [hchanges], by simp [hchanges]⟩
  | ended htarget | endedMarked htarget =>
    have hended : state ≠ .active := by
      rintro rfl
      cases htarget
    exact ⟨hstarted, by simp [hchanges], by simp [hchanges], by simp [hchanges],
      by simp [hchanges], by simp [hchanges, hended]⟩

@[simp] theorem changesOf_append :
    changesOf id (log ++ more) = changesOf id log ++ changesOf id more :=
  List.filterMap_append

/-- What is logged about others changes nothing. -/
theorem Recorded.append_of_silent (hrecorded : Recorded log id state)
    (hmore : trailOf id more = []) : Recorded (log ++ more) id state := by
  obtain ⟨hstarted, hcourse⟩ := hrecorded
  refine ⟨?_, ?_⟩
  · rwa [trailOf_append, hmore, List.append_nil]
  · rw [changesOf_append, ← changesOf_trailOf id more, hmore]
    simpa [changesOf] using hcourse

/-- A reaction is recorded: the change that it makes, if it makes one. -/
theorem Recorded.append_react {session : Session} (hrecorded : Recorded log id session.state)
    (late : Bool) (op : SessionOp)
    (hmore : trailOf id more = (session.react id late op).events) :
    Recorded (log ++ more) id (session.react id late op).state := by
  obtain ⟨⟨rest, hrest, honce⟩, hcourse⟩ := hrecorded
  refine ⟨⟨rest ++ (session.react id late op).events, ?_, ?_⟩, ?_⟩
  · rw [trailOf_append, hrest, hmore, List.cons_append]
  · rw [List.mem_append, not_or, session.events_react]
    refine ⟨honce, ?_⟩
    split <;> split <;> simp
  · have hchanges : changesOf id more =
        if (session.react id late op).state = session.state then []
        else [(session.state, (session.react id late op).state)] := by
      rw [← changesOf_trailOf, hmore, session.events_react]
      split <;> split <;> simp [changesOf]
    rw [changesOf_append, hchanges]
    split
    · next hsame =>
      rw [hsame, List.append_nil]
      exact hcourse
    · next hchanged =>
      refine hcourse.concat ?_
      rcases session.react_cases id late op with ⟨-, hsame⟩ | ⟨-, hactive, hmarked⟩ |
        ⟨ending, -, hactive, hended⟩
      · exact absurd hsame hchanged
      · exact .inl ⟨hactive, hmarked⟩
      · refine .inr ⟨hactive, ?_⟩
        rw [hended]
        cases ending <;> rfl

end Chronicles

/-- The log tells of all the sessions, and of no others. -/
def World.Logged (world : World) (log : List Event) : Prop :=
  (∀ id, world.session? id = none → trailOf id log = []) ∧
    ∀ id session, world.session? id = some session → Recorded log id session.state

/-- What a request logs goes with what it does. -/
theorem World.Audited.logged {world after : World} {request : Request} {log events : List Event}
    (haudited : world.Audited request after (trail events)) (hlogged : world.Logged log) :
    after.Logged (log ++ events) := by
  obtain ⟨habsent, hrecorded⟩ := hlogged
  generalize htrail : trail events = told at haudited
  have htold (id : SessionId) : trailOf id events = trailOf id told := by
    rw [← htrail, trailOf_trail]
  cases haudited with
  | quiet hsessions =>
    have hsilent (id : SessionId) : trailOf id events = [] := htold id
    refine ⟨fun id hnone => ?_, fun id session hsession => ?_⟩
    · rw [trailOf_append, hsilent, habsent id (hsessions ▸ hnone)]
      rfl
    · exact (hrecorded id session (hsessions ▸ hsession)).append_of_silent (hsilent id)
  | started =>
    have hothers (id : SessionId) (hold : id ≠ world.nextSession) : trailOf id events = [] := by
      rw [htold]
      exact trailOf_eq_nil_of_ne (List.forall_mem_singleton.2 rfl) hold
    refine ⟨fun id hnone => ?_, fun id session hsession => ?_⟩
    · rw [session?_enroll] at hnone
      by_cases hnew : id = world.nextSession
      · rw [if_pos hnew] at hnone
        cases hnone
      · rw [if_neg hnew] at hnone
        rw [trailOf_append, hothers id hnew, habsent id hnone]
        rfl
    · rw [session?_enroll] at hsession
      by_cases hnew : id = world.nextSession
      · rw [if_pos hnew] at hsession
        obtain rfl := Option.some.inj hsession
        have hall : trailOf id (log ++ events) = [.started id] := by
          rw [trailOf_append, habsent id (hnew ▸ session?_nextSession world), htold, ← hnew]
          exact trailOf_eq_self (List.forall_mem_singleton.2 rfl)
        refine ⟨⟨[], hall, List.not_mem_nil⟩, ?_⟩
        rw [← changesOf_trailOf, hall]
        exact .running
      · rw [if_neg hnew] at hsession
        exact (hrecorded id session hsession).append_of_silent (hothers id hnew)
  | @asked asked found op hfound =>
    have hothers (id : SessionId) (hother : id ≠ asked) : trailOf id events = [] := by
      rw [htold]
      exact trailOf_eq_nil_of_ne (fun event => Session.tx?_of_mem_events_react) hother
    refine ⟨fun id hnone => ?_, fun id session hsession => ?_⟩
    · rw [session?_respond] at hnone
      by_cases hsame : id = asked
      · rw [if_pos hsame, hsame, hfound] at hnone
        cases hnone
      · rw [if_neg hsame] at hnone
        rw [trailOf_append, hothers id hsame, habsent id hnone]
        rfl
    · rw [session?_respond] at hsession
      by_cases hsame : id = asked
      · subst hsame
        rw [if_pos rfl, hfound] at hsession
        obtain rfl := Option.some.inj hsession
        refine (hrecorded id found hfound).append_react _ op ?_
        rw [htold]
        exact trailOf_eq_self fun event => Session.tx?_of_mem_events_react
      · rw [if_neg hsame] at hsession
        exact (hrecorded id session hsession).append_of_silent (hothers id hsame)

theorem World.logged_moments (asked : List Request) :
    (initial.after asked).Logged (logged (initial.moments asked)) := by
  induction asked using List.reverseRecOn with
  | nil => exact ⟨fun _ _ => rfl, nofun⟩
  | append_singleton asked request ih =>
    rw [moments_concat, after_concat, logged_concat]
    exact (audited (initial.after asked) request).logged ih

namespace Moment

variable {moment : Moment} {id : SessionId}

/-- A report is that of a session that was asked. -/
theorem Reports.exists_react {op : SessionOp} {kind : ErrorKind}
    (hreports : moment.Reports id op kind) :
    ∃ session, moment.request = .session id op ∧ moment.before.session? id = some session ∧
      (session.react id (session.isTimedOut moment.before.stopwatch) op).kind = kind := by
  obtain ⟨world, request⟩ := moment
  have hrequest : request = .session id op := by
    obtain ⟨value, hreply⟩ := hreports
    unfold reply? at hreply
    cases request with
    | session other again =>
      simp only at hreply
      split at hreply
      · next hsame =>
        cases hreply
        rw [hsame.1]
      · cases hreply
    | _ => cases hreply
  subst hrequest
  obtain ⟨hsome, hkind⟩ := reports_iff.1 hreports
  obtain ⟨session, hsession⟩ := Option.isSome_iff_exists.1 hsome
  rw [World.answer_session, run_perform hsession] at hkind
  exact ⟨session, rfl, hsession, hkind⟩

/-- A commit that comes too late logs that the session is rolled back, and right after
that the warning. -/
theorem Reports.events_eq (hreports : moment.Reports id .commit .txTimeout) :
    moment.events =
      [.forwarding (.session .commit), .stateChange id .active .rolledBack, .timedOut id] := by
  obtain ⟨session, hrequest, hsession, hkind⟩ := hreports.exists_react
  obtain ⟨world, request⟩ := moment
  obtain rfl : request = .session id .commit := hrequest
  obtain ⟨-, hactive, hended⟩ := Session.react_of_txTimeout hkind
  rw [World.events_session hsession, session.events_react, if_pos hkind, hended, hactive]
  rfl

/-- Nothing else is followed by the warning. -/
theorem reports_of_timedOut_mem (hmem : .timedOut id ∈ moment.events) :
    moment.Reports id .commit .txTimeout := by
  obtain ⟨world, request⟩ := moment
  have htold : .timedOut id ∈ trail (⟨world, request⟩ : Moment).events :=
    List.mem_filter.2 ⟨hmem, rfl⟩
  have haudited := world.audited request
  generalize trail (⟨world, request⟩ : Moment).events = told at haudited htold
  generalize world.next request = after at haudited
  cases haudited with
  | quiet => cases htold
  | started => simp at htold
  | @asked asked session op hsession =>
    obtain rfl : asked = id := (Option.some.inj (Session.tx?_of_mem_events_react htold)).symm
    have hkind : (session.react asked (session.isTimedOut world.stopwatch) op).kind =
        .txTimeout := by
      rw [session.events_react] at htold
      by_contra hother
      rw [if_neg hother, List.append_nil] at htold
      split at htold <;> simp at htold
    obtain ⟨rfl, -, -⟩ := Session.react_of_txTimeout hkind
    rw [reports_iff, World.answer_session, run_perform hsession, hsession]
    exact ⟨rfl, hkind⟩

/-- No request by itself warns of a rollback that failed. -/
theorem rollbackFailed_not_mem (moment : Moment) (error : TransactionError) :
    .rollbackFailed error ∉ moment.events := by
  obtain ⟨world, request⟩ := moment
  cases request with
  | start id thread options =>
    rw [World.events_start]
    cases hbackend : world.backend? id with
    | none => simp [run_start_of_none hbackend, startEvents]
    | some backend =>
      cases hbound : backend.bound.find? thread with
      | none => simp [run_start_of_free hbackend hbound, startEvents]
      | some existing => simp [run_start_of_bound hbackend hbound, startEvents]
  | session id op =>
    cases hsession : world.session? id with
    | none => simp [World.events_session_of_none hsession]
    | some session =>
      rw [World.events_session hsession, List.mem_cons]
      rintro (hother | hmem)
      · cases hother
      · cases Session.tx?_of_mem_events_react hmem
  | current | metrics | resetMetrics =>
    change _ ∉ [Event.forwarding _]
    simp
  | around => exact List.not_mem_nil

theorem Reports.warnings_eq (hreports : moment.Reports id .commit .txTimeout) :
    warnings moment.events =
      [("transaction timed out and was rolled back", [("tx_id", .text id.display)])] := by
  rw [hreports.events_eq]
  rfl

/-- Where no commit comes too late there is nothing to warn of. -/
theorem warnings_eq_nil (hnone : ∀ id, ¬ moment.Reports id .commit .txTimeout) :
    warnings moment.events = [] := by
  rw [warnings, List.filter_eq_nil_iff.2, List.map_nil]
  intro event hmem
  cases event with
  | timedOut id => exact absurd (reports_of_timedOut_mem hmem) (hnone id)
  | rollbackFailed error => exact absurd hmem (moment.rollbackFailed_not_mem error)
  | _ => exact nofun

end Moment

/-- The session of the backend whose end in one way the event tells. -/
def World.ended? (world : World) (id : BackendId) (ending : Ending) : Event → Option SessionId
  | .stateChange tx _ target =>
    if target = ending.state ∧ (world.session? tx).any (·.backend == id) then some tx else none
  | _ => none

namespace World

theorem filterMap_ended?_trail (world : World) (id : BackendId) (ending : Ending)
    (log : List Event) :
    (trail log).filterMap (world.ended? id ending) = log.filterMap (world.ended? id ending) := by
  rw [trail, List.filterMap_filter]
  congr 1
  funext event
  cases event <;> rfl

theorem filterMap_ended?_of_tellsAll {later : World} {asked : SessionId} {last : Session}
    (hlast : later.session? asked = some last) {reaction : Reaction} {source : TxState}
    (htells : reaction.TellsAll asked source) (id : BackendId) (ending : Ending) :
    reaction.events.filterMap (later.ended? id ending) =
      if reaction.state = source then []
      else if reaction.state = ending.state ∧ last.backend = id then [asked] else [] := by
  have hevents : reaction.events = _ := htells
  have hwarning : (if reaction.kind = .txTimeout then [Event.timedOut asked] else []).filterMap
      (later.ended? id ending) = [] := by
    split <;> rfl
  rw [hevents, List.filterMap_append, hwarning, List.append_nil]
  split
  · rfl
  · by_cases hended : reaction.state = ending.state ∧ last.backend = id
    · simp [ended?, hlast, hended]
    · simp [ended?, hlast, hended]

/-- What a request logs about ends, as it is seen later, are the ends that it brings. -/
theorem Audited.ends {world after later : World} {request : Request} {told : List Event}
    (haudited : world.Audited request after told)
    (hlater : ∀ session found, after.session? session = some found →
      ∃ last, later.session? session = some last ∧ last.SameOrigin found)
    (id : BackendId) (ending : Ending) :
    (told.filterMap (later.ended? id ending)).Nodup ∧
      ∀ session, session ∈ told.filterMap (later.ended? id ending) ↔
        world.stateOf? session ≠ some ending.state ∧
          ∃ found, after.session? session = some found ∧ found.backend = id ∧
            found.state = ending.state := by
  cases haudited with
  | quiet hsessions =>
    refine ⟨List.nodup_nil, fun session => ⟨fun hmem => absurd hmem List.not_mem_nil, ?_⟩⟩
    rintro ⟨hbefore, found, hfound, -, hstate⟩
    rw [hsessions] at hfound
    exact absurd (by rw [stateOf?, hfound, Option.map_some, hstate]) hbefore
  | started =>
    refine ⟨List.nodup_nil, fun session => ⟨fun hmem => absurd hmem List.not_mem_nil, ?_⟩⟩
    rintro ⟨hbefore, found, hfound, -, hstate⟩
    rw [session?_enroll] at hfound
    by_cases hnew : session = world.nextSession
    · rw [if_pos hnew] at hfound
      obtain rfl := Option.some.inj hfound
      have hrunning : TxState.active = ending.state := hstate
      cases ending <;> cases hrunning
    · rw [if_neg hnew] at hfound
      exact absurd (by rw [stateOf?, hfound, Option.map_some, hstate]) hbefore
  | @asked asked session op hsession =>
    obtain ⟨last, hlast, hsame⟩ := hlater asked
      (session.after (session.react asked (session.isTimedOut world.stopwatch) op))
      (by rw [session?_respond, if_pos rfl, hsession]; rfl)
    have hbackend : last.backend = session.backend := hsame.backend
    rw [filterMap_ended?_of_tellsAll hlast (session.tellsAll_react asked _ op), hbackend]
    generalize session.react asked (session.isTimedOut world.stopwatch) op = reaction
    refine ⟨by split <;> [exact .nil; split <;> simp], fun other => ?_⟩
    have hmem : other ∈ (if reaction.state = session.state then []
          else if reaction.state = ending.state ∧ session.backend = id then [asked] else []) ↔
        other = asked ∧ reaction.state ≠ session.state ∧ reaction.state = ending.state ∧
          session.backend = id := by
      by_cases hkept : reaction.state = session.state
      · simp [hkept]
      · by_cases hended : reaction.state = ending.state ∧ session.backend = id
        · simp only [if_neg hkept, if_pos hended, List.mem_singleton]
          exact ⟨fun hother => ⟨hother, hkept, hended⟩, And.left⟩
        · simp only [if_neg hkept, if_neg hended, List.not_mem_nil, false_iff]
          exact fun hall => hended hall.2.2
    rw [hmem, session?_respond]
    constructor
    · rintro ⟨rfl, hchanged, hended, hid⟩
      rw [if_pos rfl, stateOf?, hsession, Option.map_some, ← hended, ne_eq, Option.some.injEq]
      exact ⟨Ne.symm hchanged, _, rfl, hid, rfl⟩
    · rintro ⟨hbefore, found, hfound, hid, hstate⟩
      by_cases hother : other = asked
      · subst hother
        rw [if_pos rfl, hsession] at hfound
        obtain rfl := Option.some.inj hfound
        rw [stateOf?, hsession, Option.map_some, ne_eq, Option.some.injEq, ← hstate] at hbefore
        exact ⟨rfl, Ne.symm hbefore, hstate, hid⟩
      · rw [if_neg hother] at hfound
        exact absurd (by rw [stateOf?, hfound, Option.map_some, hstate]) hbefore

/-- The ends that the log tells of a backend since its metrics were last reset are those
that there were, each once. -/
theorem ends_logged (asked : List Request) (id : BackendId) (ending : Ending) :
    let ends := (logged (sinceReset id (initial.moments asked))).filterMap
      ((initial.after asked).ended? id ending)
    ends.Nodup ∧ ∀ session, session ∈ ends ↔
      ∃ moment ∈ sinceReset id (initial.moments asked),
        moment.Enters id session ending.state := by
  intro ends
  have hends : ends = (sinceReset id (initial.moments asked)).flatMap fun moment =>
      moment.events.filterMap ((initial.after asked).ended? id ending) := List.filterMap_flatMap
  have hmoment (moment : Moment) (hmem : moment ∈ initial.moments asked) :
      (moment.events.filterMap ((initial.after asked).ended? id ending)).Nodup ∧
        ∀ session, session ∈ moment.events.filterMap ((initial.after asked).ended? id ending) ↔
          moment.Enters id session ending.state := by
    obtain ⟨before, rest, hasked, hmoment⟩ := exists_append_of_mem_moments hmem
    have hafter : initial.after asked = moment.after.after rest := by
      rw [hasked, after_append, Moment.after, hmoment]
      rfl
    rw [hmoment, ← filterMap_ended?_trail, hafter, Moment.after, hmoment]
    exact (audited _ moment.request).ends (fun session found hfound => session?_after hfound rest)
      id ending
  have hpast {moment : Moment} (hmem : moment ∈ sinceReset id (initial.moments asked)) :=
    hmoment moment (mem_of_mem_sinceReset hmem)
  rw [hends]
  refine ⟨List.nodup_flatMap.2 ⟨fun moment hmem => (hpast hmem).1, ?_⟩, fun session => ?_⟩
  · rw [List.pairwise_iff_forall_sublist]
    intro first second hsublist session hfirst hsecond
    have henters {moment : Moment} (hmem : moment ∈ [first, second])
        (hended : session ∈ moment.events.filterMap ((initial.after asked).ended? id ending)) :
        moment.Ends id session :=
      Moment.ends_iff.2 ⟨ending, ((hpast (hsublist.subset hmem)).2 session).1 hended⟩
    have honce := List.pairwise_iff_forall_sublist.1 (pairwise_moments asked id session)
      (hsublist.trans (List.rtakeWhile_suffix _ _).sublist)
    exact honce ⟨henters (by simp) hfirst, henters (by simp) hsecond⟩
  · rw [List.mem_flatMap]
    exact exists_congr fun moment => and_congr_right fun hmem => (hpast hmem).2 session

/-- The counters show how many ends the log tells of. -/
theorem shows_logged (asked : List Request) {id : BackendId} {backend : Backend}
    (hbackend : (initial.after asked).backend? id = some backend) (hlive : backend.live = true)
    (ending : Ending) :
    backend.metrics.Shows ending ((logged (sinceReset id (initial.moments asked))).countP
      fun event => ((initial.after asked).ended? id ending event).isSome) := by
  obtain ⟨ended, hcounted, hshows⟩ := accounts_moments asked hbackend hlive ending
  obtain ⟨hnodup, hmem⟩ := ends_logged asked id ending
  have hended : ((logged (sinceReset id (initial.moments asked))).filterMap
      ((initial.after asked).ended? id ending)).toFinset = ended := by
    ext session
    rw [List.mem_toFinset, hmem, hcounted session]
  rwa [← List.length_filterMap_eq_countP, ← List.toFinset_card_of_nodup hnodup, hended]

end World

/-- The log of a program is a faithful audit trail. Whatever it tells about sessions it
tells at the moments of its history. At every moment it has told of each session when it
was started, and how it came to be in the state that it is in. A commit that comes too
late, and nothing else, is followed by a warning, right after the change that it makes; the
warning says so and names the session.
The counters of a live backend show how many of its sessions have ended, as the log tells
since the metrics were last reset. -/
theorem Program.log_faithful {ρ : Type} {program : Program ρ} {past : List Moment}
    (hpast : past <+: program.history) :
    let run := (program.run [] : Attempt World ρ).run.run World.initial
    let world := World.initial.reached past
    (trail run.events = trail (logged program.history) ∧ TimesOutInOrder run.events) ∧
    (∀ id session, world.session? id = some session →
      Chronicles (logged past) id session.state) ∧
    (∀ moment ∈ past,
      (∀ id, (moment.Reports id .commit .txTimeout → moment.events =
        [.forwarding (.session .commit), .stateChange id .active .rolledBack, .timedOut id] ∧
          warnings moment.events =
            [("transaction timed out and was rolled back", [("tx_id", .text id.display)])]) ∧
        (¬ moment.Reports id .commit .txTimeout → .timedOut id ∉ moment.events)) ∧
      ((∀ id, ¬ moment.Reports id .commit .txTimeout) → warnings moment.events = [])) ∧
    ∀ id backend, world.backend? id = some backend → backend.live = true →
      let told (ending : Ending) : Nat := (logged (sinceReset id past)).countP fun event =>
        (world.ended? id ending event).isSome
      backend.metrics.commits.toNat = min (2 ^ 32 - 1) (told .commit) ∧
        backend.metrics.rollbacks.toNat = min (2 ^ 32 - 1) (told .rollback) := by
  obtain ⟨asked, rfl, hreached⟩ := Program.exists_asked hpast
  rw [hreached]
  refine ⟨program.trail_events, ?_, ?_, ?_⟩
  · intro id session hsession
    exact ((World.logged_moments asked).2 id session hsession).chronicles
  · intro moment _
    refine ⟨fun id => ⟨fun hreports => ⟨hreports.events_eq, hreports.warnings_eq⟩, ?_⟩,
      Moment.warnings_eq_nil⟩
    exact fun hnot hmem => hnot (Moment.reports_of_timedOut_mem hmem)
  · intro id backend hbackend hlive
    exact ⟨(World.shows_logged asked hbackend hlive .commit).counter,
      (World.shows_logged asked hbackend hlive .rollback).counter⟩

/-- A transaction that has used up its time when it is committed: the log tells that it
was started, that it was rolled back, and then the warning. -/
theorem Program.log_faithful_of_late :
    let options : TxOptions := ⟨.optimistic, .serializable, .ofParts 0 1, 0⟩
    let asked : List Request :=
      [.around .newBackend, .start ⟨0⟩ ⟨7⟩ options, .around (.passTime 2), .session ⟨0⟩ .commit]
    let moment : Moment := ⟨World.initial.after (asked.take 3), .session ⟨0⟩ .commit⟩
    Chronicles (logged (World.initial.moments asked)) ⟨0⟩ .rolledBack ∧
      moment.events =
        [.forwarding (.session .commit), .stateChange ⟨0⟩ .active .rolledBack, .timedOut ⟨0⟩] ∧
      warnings moment.events =
        [("transaction timed out and was rolled back", [("tx_id", .text "<tx0>")])] := by
  intro options asked moment
  have hpast : World.initial.moments asked <+: (Program.ofRequests asked).history := by
    rw [Program.history_ofRequests]
  obtain ⟨-, hchronicles, hwarned, -⟩ := Program.log_faithful hpast
  have hreports : moment.Reports ⟨0⟩ .commit .txTimeout := ⟨(), rfl⟩
  have hmem : moment ∈ World.initial.moments asked := List.mem_iff_getElem?.2 ⟨3, rfl⟩
  exact ⟨hchronicles ⟨0⟩ _ rfl, ((hwarned moment hmem).1 ⟨0⟩).1 hreports⟩

end TxClient.Local
