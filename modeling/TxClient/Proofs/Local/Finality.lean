import TxClient.Proofs.Local.Automaton

/-!
What is decided about a session stays decided. A committed session was committed
once, in time, and before anything had forbidden it. A session that can only be
rolled back is never committed. The automaton of the session decides; its runs are
carried over to the worlds of a program.
-/

namespace TxClient.Local

namespace Automaton

variable {automaton : Automaton} {inquiry : Inquiry}

/-- A commit cannot succeed any more, and has not done so. -/
def Doomed (automaton : Automaton) : Prop :=
  automaton.phase = .marked ∨ automaton.phase = .rolledBack

theorem isRollbackOnly_value_iff :
    automaton.value .isRollbackOnly = true ↔ automaton.Doomed := by
  change (automaton.phase == .marked || automaton.phase == .rolledBack) = true ↔ _
  rw [Bool.or_eq_true, beq_iff_eq, beq_iff_eq]
  rfl

/-- Only a session that nothing has happened to can be committed. -/
theorem commit_succeeds_iff {late : Bool} :
    (automaton.step ⟨.commit, late⟩).2 = .success ↔ automaton = initial ∧ late = false := by
  obtain ⟨phase, closed⟩ := automaton
  cases phase <;> cases closed <;> cases late <;> simp [step, initial]

theorem committed_step_iff :
    (automaton.step inquiry).1.phase = .committed ↔
      automaton.phase = .committed ∨
        inquiry.op = .commit ∧ (automaton.step inquiry).2 = .success := by
  obtain ⟨phase, closed⟩ := automaton
  obtain ⟨op, late⟩ := inquiry
  cases op
  case commit => cases phase <;> cases closed <;> cases late <;> simp [step]
  all_goals cases phase <;> cases closed <;> simp [step]

theorem Doomed.step (hdoomed : automaton.Doomed) (inquiry : Inquiry) :
    (automaton.step inquiry).1.Doomed := by
  obtain ⟨phase, closed⟩ := automaton
  obtain ⟨op, late⟩ := inquiry
  obtain rfl | rfl : phase = .marked ∨ phase = .rolledBack := hdoomed
  all_goals cases op <;> cases closed <;> simp [Automaton.step, Doomed]

/-- Marking and rolling back doom a session if they succeed; giving it up does so
unless it is committed. -/
theorem doomed_of_succeeds {op : SessionOp} {late : Bool}
    (hop : op = .setRollbackOnly ∨ op = .rollback ∨ op = .close ∧ automaton.phase ≠ .committed)
    (hsucceeds : (automaton.step ⟨op, late⟩).2 = .success) :
    (automaton.step ⟨op, late⟩).1.Doomed := by
  obtain ⟨phase, closed⟩ := automaton
  rcases hop with rfl | rfl | ⟨rfl, hphase⟩
  · cases phase <;> cases closed <;> simp_all [step, Doomed]
  · cases phase <;> cases closed <;> simp_all [step, Doomed]
  · cases phase <;> simp_all [step, Doomed]

theorem refuses_of_committed (hphase : automaton.phase = .committed) {op : SessionOp}
    (hop : op = .commit ∨ op = .rollback ∨ op = .setRollbackOnly) (late : Bool) :
    (automaton.step ⟨op, late⟩).2 = .illegalState := by
  obtain ⟨phase, closed⟩ := automaton
  obtain rfl : phase = .committed := hphase
  rcases hop with rfl | rfl | rfl
  all_goals cases closed <;> rfl

end Automaton

namespace Moment

/-- An operation on the session reports a failure of the kind, or a success. -/
def Reports (moment : Moment) (id : SessionId) (op : SessionOp) (kind : ErrorKind) : Prop :=
  ∃ value, moment.reply? id = some ⟨op, value, kind⟩

/-- An operation on the session answers with the value. -/
def Answers (moment : Moment) (id : SessionId) (op : SessionOp) (value : op.Result) : Prop :=
  ∃ kind, moment.reply? id = some ⟨op, value, kind⟩

/-- An operation reports what the world answers, if there is such a session. -/
theorem reports_iff {world : World} {id : SessionId} {op : SessionOp} {kind : ErrorKind} :
    (⟨world, .session id op⟩ : Moment).Reports id op kind ↔
      (world.session? id).isSome = true ∧ (world.answer (.session id op)).2.kind = kind := by
  unfold Reports reply?
  cases hsession : world.session? id with
  | none => simp
  | some session =>
    simp only [Option.isSome_some, and_self, if_true, Option.some.injEq, true_and]
    constructor
    · rintro ⟨value, hreply⟩
      exact congrArg Reply.kind hreply
    · rintro rfl
      exact ⟨_, rfl⟩

/-- Something forbids a commit of the session: it is found or made rollback-only, it
is rolled back, or it is given up before a commit has succeeded. -/
inductive Forbids (moment : Moment) (first : List Moment) (id : SessionId) : Prop where
  | found (hanswers : moment.Answers id .isRollbackOnly true)
  | marked (hreports : moment.Reports id .setRollbackOnly .success)
  | rolledBack (hreports : moment.Reports id .rollback .success)
  | givenUp (hreports : moment.Reports id .close .success)
      (hnone : ∀ earlier ∈ first, ¬ earlier.Reports id .commit .success)

/-- At the first moment the session is started, and at the second it has not used up
the time that it was given then. -/
def InTime (start commit : Moment) (id : SessionId) : Prop :=
  ∃ backend thread options, start.request = .start backend thread options ∧
    start.before.answer (.start backend thread options) = (⟨some id⟩, .success) ∧
    (options.timeout = .zero ∨
      commit.before.stopwatch ≤ start.before.stopwatch + options.timeout.nanos)

end Moment

namespace World

/-- The session can only be rolled back, or has been. -/
def Doomed (world : World) (id : SessionId) : Prop :=
  ∃ session, world.session? id = some session ∧ session.state.isRollbackOnly = true

end World

namespace Automaton

variable {automaton : Automaton} {world : World} {id : SessionId}

/-- A moment is a step of the automaton with its reply, or nothing to it. -/
theorem Tracks.step_cases (htracks : automaton.Tracks world id) (request : Request) :
    ((⟨world, request⟩ : Moment).reply? id = none ∧ automaton.Tracks (world.next request) id) ∨
      ∃ session op, world.session? id = some session ∧ request = .session id op ∧
        let inquiry : Inquiry := ⟨op, session.isTimedOut world.stopwatch⟩
        (⟨world, request⟩ : Moment).reply? id =
            some ⟨op, automaton.value op, (automaton.step inquiry).2⟩ ∧
          (automaton.step inquiry).1.Tracks (world.next request) id := by
  by_cases hasked : ∃ op session, world.session? id = some session ∧ request = .session id op
  · obtain ⟨op, session, hsession, rfl⟩ := hasked
    obtain ⟨-, hreply, hnext⟩ := htracks.asked hsession op
    exact .inr ⟨session, op, hsession, rfl, hreply, hnext⟩
  · have hrequest (op : SessionOp) (session : Session)
        (hsession : world.session? id = some session) : request ≠ .session id op := by
      rintro rfl
      exact hasked ⟨op, session, hsession, rfl⟩
    obtain ⟨-, hreply, hnext⟩ := htracks.unasked hrequest
    exact .inl ⟨hreply, hnext⟩

/-- A reply is the one of the automaton, which goes on from there. -/
theorem Tracks.of_reply (htracks : automaton.Tracks world id) {request : Request}
    {op : SessionOp} {value : op.Result} {kind : ErrorKind}
    (hreply : (⟨world, request⟩ : Moment).reply? id = some ⟨op, value, kind⟩) :
    ∃ session, world.session? id = some session ∧
      let inquiry : Inquiry := ⟨op, session.isTimedOut world.stopwatch⟩
      automaton.value op = value ∧ (automaton.step inquiry).2 = kind ∧
        (automaton.step inquiry).1.Tracks (world.next request) id := by
  rcases htracks.step_cases request with ⟨hnone, -⟩ | ⟨session, again, hsession, -, hsome, hnext⟩
  · rw [hnone] at hreply
    cases hreply
  · rw [hsome] at hreply
    cases hreply
    exact ⟨session, hsession, rfl, rfl, hnext⟩

theorem Tracks.of_reports (htracks : automaton.Tracks world id) {request : Request}
    {op : SessionOp} {kind : ErrorKind}
    (hreports : (⟨world, request⟩ : Moment).Reports id op kind) :
    ∃ session, world.session? id = some session ∧
      let inquiry : Inquiry := ⟨op, session.isTimedOut world.stopwatch⟩
      (automaton.step inquiry).2 = kind ∧
        (automaton.step inquiry).1.Tracks (world.next request) id := by
  obtain ⟨value, hreply⟩ := hreports
  obtain ⟨session, hsession, -, hkind, hnext⟩ := htracks.of_reply hreply
  exact ⟨session, hsession, hkind, hnext⟩

/-- What every step keeps is kept by all that happens in a world. -/
theorem Tracks.after (holds : Automaton → Prop)
    (hkept : ∀ automaton inquiry, holds automaton → holds (automaton.step inquiry).1)
    (htracks : automaton.Tracks world id) (hholds : holds automaton) (asked : List Request) :
    ∃ later, later.Tracks (world.after asked) id ∧ holds later := by
  induction asked generalizing world automaton with
  | nil => exact ⟨automaton, htracks, hholds⟩
  | cons request rest ih =>
    rcases htracks.step_cases request with ⟨-, hnext⟩ | ⟨session, op, -, -, -, hnext⟩
    · exact ih hnext hholds
    · exact ih hnext (hkept automaton _ hholds)

theorem exists_tracks (asked : List Request) (id : SessionId) :
    ∃ automaton : Automaton, automaton.Tracks (World.initial.after asked) id := by
  have hinitial : initial.Tracks World.initial id := by
    simp [Tracks, World.initial, World.session?]
  obtain ⟨automaton, htracks, -⟩ :=
    hinitial.after (fun _ => True) (fun _ _ _ => trivial) trivial asked
  exact ⟨automaton, htracks⟩

theorem Tracks.committed_iff (htracks : automaton.Tracks world id) :
    world.stateOf? id = some .committed ↔ automaton.phase = .committed := by
  unfold World.stateOf?
  cases hsession : world.session? id with
  | none => simp [htracks.eq_initial hsession, initial]
  | some session =>
    have hstate : session.state = automaton.phase.state := (htracks.shows hsession).state
    rw [Option.map_some, Option.some.injEq, hstate]
    cases automaton.phase <;> simp [Phase.state]

theorem Tracks.doomed_iff (htracks : automaton.Tracks world id) :
    world.Doomed id ↔ automaton.Doomed := by
  unfold World.Doomed
  cases hsession : world.session? id with
  | none => simp [htracks.eq_initial hsession, initial, Doomed]
  | some session =>
    have hanswer : session.state.isRollbackOnly = automaton.value .isRollbackOnly :=
      (htracks.shows hsession).answer .isRollbackOnly
    simp only [Option.some.injEq, exists_eq_left', hanswer]
    exact isRollbackOnly_value_iff

end Automaton

namespace World

variable {world : World} {request : Request} {id : SessionId}

/-- A session is committed by a commit that succeeds, and in no other way. -/
theorem committed_next_iff {automaton : Automaton} (htracks : automaton.Tracks world id) :
    (world.next request).stateOf? id = some .committed ↔
      world.stateOf? id = some .committed ∨
        (⟨world, request⟩ : Moment).Reports id .commit .success := by
  rw [htracks.committed_iff]
  unfold Moment.Reports
  rcases htracks.step_cases request with ⟨hreply, hnext⟩ | ⟨session, op, -, rfl, hreply, hnext⟩
  · rw [hnext.committed_iff, hreply]
    simp
  · rw [hnext.committed_iff, hreply, Automaton.committed_step_iff]
    refine or_congr_right ⟨?_, ?_⟩
    · rintro ⟨rfl, hsucceeds⟩
      exact ⟨(), by rw [hsucceeds]; rfl⟩
    · rintro ⟨value, hsome⟩
      obtain ⟨hop, -, hkind⟩ := Reply.mk.inj (Option.some.inj hsome)
      exact ⟨hop, hkind⟩

theorem Doomed.next {automaton : Automaton} (htracks : automaton.Tracks world id)
    (hdoomed : world.Doomed id) (request : Request) : (world.next request).Doomed id := by
  rw [htracks.doomed_iff] at hdoomed
  rcases htracks.step_cases request with ⟨-, hnext⟩ | ⟨session, op, -, -, -, hnext⟩
  · exact hnext.doomed_iff.2 hdoomed
  · exact hnext.doomed_iff.2 (hdoomed.step _)

/-- A commit that succeeds finds a session that nothing has happened to, in time. -/
theorem exists_open_of_commit {automaton : Automaton} (htracks : automaton.Tracks world id)
    (hreports : (⟨world, request⟩ : Moment).Reports id .commit .success) :
    automaton = .initial ∧
      ∃ session, world.session? id = some session ∧ session.isTimedOut world.stopwatch = false := by
  obtain ⟨session, hsession, hkind, -⟩ := htracks.of_reports hreports
  obtain ⟨hinitial, hlate⟩ := Automaton.commit_succeeds_iff.1 hkind
  exact ⟨hinitial, session, hsession, hlate⟩

theorem doomed_next_of_forbids {automaton : Automaton} (htracks : automaton.Tracks world id)
    {first : List Moment} (hforbids : (⟨world, request⟩ : Moment).Forbids first id)
    (hfirst : world.stateOf? id = some .committed →
      ∃ earlier ∈ first, earlier.Reports id .commit .success) :
    (world.next request).Doomed id := by
  cases hforbids with
  | found hanswers =>
    obtain ⟨kind, hreply⟩ := hanswers
    obtain ⟨session, -, hvalue, -, hnext⟩ := htracks.of_reply hreply
    exact hnext.doomed_iff.2 (Automaton.isRollbackOnly_value_iff.1 hvalue)
  | marked hreports =>
    obtain ⟨session, -, hkind, hnext⟩ := htracks.of_reports hreports
    exact hnext.doomed_iff.2 (Automaton.doomed_of_succeeds (.inl rfl) hkind)
  | rolledBack hreports =>
    obtain ⟨session, -, hkind, hnext⟩ := htracks.of_reports hreports
    exact hnext.doomed_iff.2 (Automaton.doomed_of_succeeds (.inr (.inl rfl)) hkind)
  | givenUp hreports hnone =>
    obtain ⟨session, -, hkind, hnext⟩ := htracks.of_reports hreports
    have hphase : automaton.phase ≠ .committed := by
      intro hphase
      obtain ⟨earlier, hmem, hcommit⟩ := hfirst (htracks.committed_iff.2 hphase)
      exact hnone earlier hmem hcommit
    exact hnext.doomed_iff.2 (Automaton.doomed_of_succeeds (.inr (.inr ⟨rfl, hphase⟩)) hkind)

section Runs

variable {asked : List Request}

theorem committed_after (hcommitted : (initial.after asked).stateOf? id = some .committed)
    (more : List Request) : (initial.after (asked ++ more)).stateOf? id = some .committed := by
  obtain ⟨automaton, htracks⟩ := Automaton.exists_tracks asked id
  have hphase : automaton.phase = .committed := htracks.committed_iff.1 hcommitted
  obtain ⟨later, hlater, hstays⟩ := htracks.after (·.phase = .committed)
    (fun _ _ hphase => Automaton.committed_step_iff.2 (.inl hphase)) hphase more
  rw [after_append]
  exact hlater.committed_iff.2 hstays

theorem Doomed.after (hdoomed : (initial.after asked).Doomed id) (more : List Request) :
    (initial.after (asked ++ more)).Doomed id := by
  obtain ⟨automaton, htracks⟩ := Automaton.exists_tracks asked id
  obtain ⟨later, hlater, hstays⟩ := htracks.after Automaton.Doomed
    (fun _ inquiry hdoomed => hdoomed.step inquiry) (htracks.doomed_iff.1 hdoomed) more
  rw [after_append]
  exact hlater.doomed_iff.2 hstays

/-- The committed sessions are those for which a commit has succeeded. -/
theorem committed_iff_exists_reports :
    (initial.after asked).stateOf? id = some .committed ↔
      ∃ moment ∈ initial.moments asked, moment.Reports id .commit .success := by
  induction asked using List.reverseRecOn with
  | nil => simp [moments, after, initial, stateOf?, session?]
  | append_singleton asked request ih =>
    obtain ⟨automaton, htracks⟩ := Automaton.exists_tracks asked id
    rw [exists_mem_moments_concat, ← ih, after_concat]
    exact committed_next_iff htracks

/-- Once something forbids a commit the session can only be rolled back. -/
theorem doomed_of_forbids {first later : List Moment} {sign : Moment}
    (hsplit : initial.moments asked = first ++ sign :: later) (hforbids : sign.Forbids first id) :
    (initial.after asked).Doomed id := by
  obtain ⟨before, rest, rfl, rfl, hbefore, -⟩ := moments_eq_append_cons hsplit
  obtain ⟨automaton, htracks⟩ := Automaton.exists_tracks before id
  obtain ⟨world, request⟩ := sign
  obtain rfl : world = initial.after before := hbefore
  have hnext : ((initial.after before).next request).Doomed id :=
    doomed_next_of_forbids htracks hforbids committed_iff_exists_reports.1
  rw [← after_concat] at hnext
  have hlater := hnext.after rest
  rwa [List.append_assoc] at hlater

/-- Where a commit succeeds the session is neither committed before nor doomed. -/
theorem not_decided_of_commit {request : Request}
    (hreports : (⟨initial.after asked, request⟩ : Moment).Reports id .commit .success) :
    (initial.after asked).stateOf? id ≠ some .committed ∧ ¬ (initial.after asked).Doomed id := by
  obtain ⟨automaton, htracks⟩ := Automaton.exists_tracks asked id
  obtain ⟨rfl, -⟩ := exists_open_of_commit htracks hreports
  rw [ne_eq, htracks.committed_iff, htracks.doomed_iff]
  exact ⟨nofun, nofun⟩

theorem not_committed_of_doomed (hdoomed : (initial.after asked).Doomed id) :
    (initial.after asked).stateOf? id ≠ some .committed := by
  obtain ⟨session, hsession, hstate⟩ := hdoomed
  rw [stateOf?, hsession, Option.map_some, ne_eq, Option.some.injEq]
  intro hcommitted
  rw [hcommitted] at hstate
  cases hstate

/-- A commit that succeeds is in time, counted from the start of its session. -/
theorem exists_inTime {request : Request}
    (hreports : (⟨initial.after asked, request⟩ : Moment).Reports id .commit .success) :
    ∃ start ∈ initial.moments asked, start.InTime ⟨initial.after asked, request⟩ id := by
  obtain ⟨automaton, htracks⟩ := Automaton.exists_tracks asked id
  obtain ⟨-, session, hsession, hlate⟩ := exists_open_of_commit htracks hreports
  obtain ⟨start, hmem, hrequest, hanswer, hstarted⟩ := exists_start hsession
  refine ⟨start, hmem, session.backend, session.thread, session.options, hrequest, hanswer, ?_⟩
  rw [session.isTimedOut_eq, decide_eq_false_iff_not, Session.IsLate, not_and_or, not_not] at hlate
  refine hlate.imp_right fun hroom => ?_
  rw [hstarted]
  exact Nat.le_of_not_lt hroom

end Runs

/-- The session says that it is committed, and lets nothing be done about it. -/
structure SaysCommitted (world : World) (id : SessionId) : Prop where
  state : world.answer (.session id .state) = (TxState.committed, .success)
  rollbackOnly : world.answer (.session id .isRollbackOnly) = (false, .success)
  refuses : ∀ op, op = .commit ∨ op = .rollback ∨ op = .setRollbackOnly →
    (world.answer (.session id op)).2.kind = .illegalState

theorem SaysCommitted.of_committed {automaton : Automaton} (htracks : automaton.Tracks world id)
    (hcommitted : world.stateOf? id = some .committed) : world.SaysCommitted id := by
  obtain ⟨session, hsession, hstate⟩ := Option.map_eq_some_iff.1 hcommitted
  have hphase : automaton.phase = .committed := htracks.committed_iff.1 hcommitted
  have hshows : automaton.Shows session := htracks.shows hsession
  refine ⟨?_, ?_, ?_⟩
  · rw [answer_session, run_perform hsession]
    exact congrArg (·, ErrorReport.success) hstate
  · rw [answer_session, run_perform hsession]
    exact congrArg (·.isRollbackOnly, ErrorReport.success) hstate
  · intro op hop
    obtain ⟨hkind, -⟩ := hshows.react id (session.isTimedOut world.stopwatch) op
    rw [answer_session, run_perform hsession]
    exact hkind.trans (Automaton.refuses_of_committed hphase hop _)

theorem Doomed.answer (hdoomed : world.Doomed id) :
    world.answer (.session id .isRollbackOnly) = (true, .success) := by
  obtain ⟨session, hsession, hstate⟩ := hdoomed
  rw [answer_session, run_perform hsession]
  exact congrArg (·, ErrorReport.success) hstate

end World

/-- The one commit of a session that has succeeded. Nothing had forbidden it, and it
came in time. -/
structure CommittedOnce (past first : List Moment) (commit : Moment) (later : List Moment)
    (id : SessionId) : Prop where
  past_eq : past = first ++ commit :: later
  succeeds : commit.Reports id .commit .success
  only : ∀ moment ∈ first ++ later, ¬ moment.Reports id .commit .success
  unforbidden : ∀ moment ∈ first, ∀ op, op = .setRollbackOnly ∨ op = .rollback ∨ op = .close →
    ¬ moment.Reports id op .success
  found : ∀ moment ∈ first, ∀ value, moment.Answers id .isRollbackOnly value → value = false
  inTime : ∃ start ∈ first, start.InTime commit id

theorem World.exists_committedOnce {asked : List Request} {id : SessionId}
    (hcommitted : (initial.after asked).stateOf? id = some .committed) :
    ∃ first commit later, CommittedOnce (initial.moments asked) first commit later id := by
  obtain ⟨commit, hmem, hreports⟩ := committed_iff_exists_reports.1 hcommitted
  obtain ⟨first, later, hsplit⟩ := List.mem_iff_append.1 hmem
  obtain ⟨before, rest, rfl, rfl, hbefore, hlater⟩ := moments_eq_append_cons hsplit
  obtain ⟨world, request⟩ := commit
  obtain rfl : world = initial.after before := hbefore
  obtain ⟨hopen, hfree⟩ := not_decided_of_commit hreports
  have hnone : ∀ moment ∈ initial.moments before, ¬ moment.Reports id .commit .success := by
    intro moment hmoment hagain
    exact hopen (committed_iff_exists_reports.2 ⟨moment, hmoment, hagain⟩)
  have hallowed (moment : Moment) (hmoment : moment ∈ initial.moments before) :
      ∃ earlier, (∀ other ∈ earlier, ¬ other.Reports id .commit .success) ∧
        ¬ moment.Forbids earlier id := by
    obtain ⟨earlier, between, hearlier⟩ := List.mem_iff_append.1 hmoment
    refine ⟨earlier, ?_, fun hforbids => hfree (doomed_of_forbids hearlier hforbids)⟩
    intro other hother
    exact hnone other (hearlier ▸ List.mem_append_left _ hother)
  refine ⟨_, _, later, hsplit, hreports, ?_, ?_, ?_, exists_inTime hreports⟩
  · intro moment hmoment hagain
    rcases List.mem_append.1 hmoment with hbefore | hafter
    · exact hnone moment hbefore hagain
    · -- the session is committed by then, and no commit succeeds on it
      subst hlater
      obtain ⟨between, rest, -, hbetween⟩ := exists_append_of_mem_moments hafter
      have hworld : (⟨initial.after before, request⟩ : Moment).after.after between =
          initial.after (before ++ [request] ++ between) := by
        rw [after_append, after_concat]
        rfl
      rw [hbetween, hworld] at hagain
      refine (not_decided_of_commit hagain).1 (committed_after ?_ between)
      refine committed_iff_exists_reports.2 ⟨⟨initial.after before, request⟩, ?_, hreports⟩
      rw [moments_concat]
      exact List.mem_append_right _ List.mem_cons_self
  · intro moment hmoment op hop hsucceeds
    obtain ⟨earlier, hearlier, hnot⟩ := hallowed moment hmoment
    rcases hop with rfl | rfl | rfl
    · exact hnot (.marked hsucceeds)
    · exact hnot (.rolledBack hsucceeds)
    · exact hnot (.givenUp hsucceeds hearlier)
  · intro moment hmoment value hanswers
    obtain ⟨earlier, -, hnot⟩ := hallowed moment hmoment
    cases value with
    | false => rfl
    | true => exact absurd (.found hanswers) hnot

/-- The decision over a session is final. If it is committed then one commit has
succeeded, in time and before anything forbade it, and from there on the session
says so in every world. Once something forbids a commit it stays rollback-only and
is not committed. -/
theorem Program.decision_final {ρ : Type} {program : Program ρ} {past : List Moment}
    (hpast : past <+: program.history) (id : SessionId) :
    ((World.initial.reached past).stateOf? id = some .committed →
      ∃ first commit later, CommittedOnce past first commit later id ∧
        ∀ more, first ++ [commit] <+: more → more <+: program.history →
          (World.initial.reached more).SaysCommitted id) ∧
    (∀ first sign later, past = first ++ sign :: later → sign.Forbids first id →
      (World.initial.reached past).answer (.session id .isRollbackOnly) = (true, .success) ∧
        (World.initial.reached past).stateOf? id ≠ some .committed) := by
  obtain ⟨asked, rfl, hreached⟩ := Program.exists_asked hpast
  rw [hreached]
  refine ⟨?_, ?_⟩
  · intro hcommitted
    obtain ⟨first, commit, later, honce⟩ := World.exists_committedOnce hcommitted
    refine ⟨first, commit, later, honce, ?_⟩
    intro more hmore hhistory
    obtain ⟨requests, rfl, hworld⟩ := Program.exists_asked hhistory
    have hmem : commit ∈ World.initial.moments requests :=
      hmore.subset (List.mem_append_right _ List.mem_cons_self)
    have hstays : (World.initial.after requests).stateOf? id = some .committed :=
      World.committed_iff_exists_reports.2 ⟨commit, hmem, honce.succeeds⟩
    obtain ⟨automaton, htracks⟩ := Automaton.exists_tracks requests id
    rw [hworld]
    exact .of_committed htracks hstays
  · intro first sign later hsplit hforbids
    have hdoomed : (World.initial.after asked).Doomed id :=
      World.doomed_of_forbids hsplit hforbids
    exact ⟨hdoomed.answer, World.not_committed_of_doomed hdoomed⟩

/-- A session that commits with the last nanosecond of its time is committed; one that
has been marked beside it can only be rolled back. -/
theorem Program.decision_final_at_limit :
    let options : TxOptions := ⟨.optimistic, .serializable, ⟨10, by decide⟩, 0⟩
    let asked : List Request := [.around .newBackend, .start ⟨0⟩ ⟨7⟩ options,
      .around (.passTime 10), .start ⟨0⟩ ⟨8⟩ options, .session ⟨1⟩ .setRollbackOnly,
      .session ⟨0⟩ .commit, .session ⟨1⟩ .commit, .session ⟨0⟩ .rollback]
    (∃ first commit later,
      CommittedOnce (World.initial.moments asked) first commit later ⟨0⟩) ∧
    (World.initial.after asked).answer (.session ⟨1⟩ .isRollbackOnly) = (true, .success) := by
  intro options asked
  have hpast : World.initial.moments asked <+: (Program.ofRequests asked).history := by
    rw [Program.history_ofRequests]
  obtain ⟨hcommitted, -⟩ := Program.decision_final hpast ⟨0⟩
  obtain ⟨-, hforbidden⟩ := Program.decision_final hpast ⟨1⟩
  rw [World.reached_moments] at hcommitted hforbidden
  have hstate : (World.initial.after asked).stateOf? ⟨0⟩ = some .committed := by decide
  obtain ⟨first, commit, later, honce, -⟩ := hcommitted hstate
  have hsplit : World.initial.moments asked = World.initial.moments (asked.take 4) ++
      ⟨World.initial.after (asked.take 4), .session ⟨1⟩ .setRollbackOnly⟩ ::
        (World.initial.after (asked.take 5)).moments (asked.drop 5) := rfl
  have hmarked : Moment.Reports ⟨World.initial.after (asked.take 4), .session ⟨1⟩ .setRollbackOnly⟩
      ⟨1⟩ .setRollbackOnly .success := Moment.reports_iff.2 ⟨rfl, by decide⟩
  obtain ⟨hanswer, -⟩ := hforbidden _ _ _ hsplit (.marked hmarked)
  exact ⟨⟨first, commit, later, honce⟩, hanswer⟩

end TxClient.Local
