import Mathlib.Data.Finset.Card
import TxClient.Proofs.Local.Program

/-!
What became of the sessions while requests were made: a session once started is
there for good, only an operation on it changes it, and it keeps what it was
started with.
-/

namespace TxClient.Local

/-- The sessions were started alike; what has become of them may differ. -/
structure Session.SameOrigin (first second : Session) : Prop where
  options : first.options = second.options
  thread : first.thread = second.thread
  backend : first.backend = second.backend
  startedAt : first.startedAt = second.startedAt

namespace Session

theorem SameOrigin.refl (session : Session) : session.SameOrigin session :=
  ⟨rfl, rfl, rfl, rfl⟩

theorem SameOrigin.trans {first second third : Session} (hfirst : first.SameOrigin second)
    (hsecond : second.SameOrigin third) : first.SameOrigin third :=
  ⟨hfirst.options.trans hsecond.options, hfirst.thread.trans hsecond.thread,
    hfirst.backend.trans hsecond.backend, hfirst.startedAt.trans hsecond.startedAt⟩

theorem sameOrigin_after (session : Session) (reaction : Reaction) :
    (session.after reaction).SameOrigin session :=
  ⟨rfl, rfl, rfl, rfl⟩

/-- The session was given a time, and more than that has passed since it was started. -/
def IsLate (session : Session) (stopwatch : Nat) : Prop :=
  session.options.timeout ≠ .zero ∧
    session.startedAt + session.options.timeout.nanos < stopwatch

instance (session : Session) (stopwatch : Nat) : Decidable (session.IsLate stopwatch) :=
  inferInstanceAs (Decidable (_ ∧ _))

theorem isTimedOut_iff {session : Session} {stopwatch : Nat} :
    session.isTimedOut stopwatch = true ↔ session.IsLate stopwatch := by
  rw [isTimedOut, TxOptions.hasTimeout, Bool.and_eq_true, bne_iff_ne, decide_eq_true_eq,
    Nat.lt_sub_iff_add_lt', IsLate]

theorem isTimedOut_eq (session : Session) (stopwatch : Nat) :
    session.isTimedOut stopwatch = decide (session.IsLate stopwatch) := by
  rw [Bool.eq_iff_iff, isTimedOut_iff, decide_eq_true_eq]

end Session

namespace World

variable {world after : World} {request : Request} {id : SessionId} {session : Session}

@[simp] theorem session?_apply (change : Change) (world : World) :
    (change.apply world).session? = world.session? := by
  cases change <;> rfl

/-- Where the sessions of a world come from: an older one that stayed, one that was
asked, or a new one. -/
theorem Step.session_cases (hstep : Step world request after)
    (hsession : after.session? id = some session) :
    world.session? id = some session ∨
      (∃ earlier op, request = .session id op ∧ world.session? id = some earlier ∧
        session =
          earlier.after (earlier.react id (earlier.isTimedOut world.stopwatch) op)) ∨
      ∃ origin backend thread options, request = .start origin thread options ∧
        world.backend? origin = some backend ∧ backend.bound.find? thread = none ∧
        id = world.nextSession ∧ session = world.fresh origin thread options := by
  cases hstep with
  | @started origin backend thread options hbackend hfree =>
    rw [session?_enroll] at hsession
    by_cases hnew : id = world.nextSession
    · rw [if_pos hnew] at hsession
      exact .inr (.inr ⟨origin, backend, thread, options, rfl, hbackend, hfree, hnew,
        (Option.some.inj hsession).symm⟩)
    · rw [if_neg hnew] at hsession
      exact .inl hsession
  | @asked other earlier op hearlier =>
    rw [session?_respond] at hsession
    by_cases hsame : id = other
    · subst hsame
      rw [if_pos rfl, hearlier] at hsession
      exact .inr (.inl ⟨earlier, op, rfl, hearlier, (Option.some.inj hsession).symm⟩)
    · rw [if_neg hsame] at hsession
      exact .inl hsession
  | around change =>
    rw [session?_apply] at hsession
    exact .inl hsession
  | reset => exact .inl hsession
  | refused | absent | current | metrics | unknown => exact .inl hsession

/-- A session is there for good. -/
theorem Step.session_stays (hstep : Step world request after)
    (hsession : world.session? id = some session) :
    ∃ later, after.session? id = some later ∧ later.SameOrigin session := by
  cases hstep with
  | started options hbackend hfree =>
    have hold : id ≠ world.nextSession := by
      intro hnew
      rw [hnew, session?_nextSession] at hsession
      cases hsession
    rw [session?_enroll, if_neg hold]
    exact ⟨session, hsession, .refl session⟩
  | @asked other earlier op hearlier =>
    rw [session?_respond]
    by_cases hsame : id = other
    · subst hsame
      obtain rfl : earlier = session := Option.some.inj (hearlier.symm.trans hsession)
      rw [if_pos rfl, hsession]
      exact ⟨_, rfl, earlier.sameOrigin_after _⟩
    · rw [if_neg hsame]
      exact ⟨session, hsession, .refl session⟩
  | around change =>
    rw [session?_apply]
    exact ⟨session, hsession, .refl session⟩
  | reset => exact ⟨session, hsession, .refl session⟩
  | refused | absent | current | metrics | unknown => exact ⟨session, hsession, .refl session⟩

/-- All that a request can do to a backend. -/
inductive BackendStep (world : World) (id : BackendId) :
    Request → Option Backend → Option Backend → Prop where
  | absent (request : Request) : BackendStep world id request none none
  | created : BackendStep world id (.around .newBackend) none (some ⟨.empty, .empty, true⟩)
  | kept {request : Request} {backend : Backend} (hreset : request ≠ .resetMetrics id)
      (hretire : request ≠ .around (.retire id))
      (hquiet : ∀ session found op ending, request = .session session op →
        world.session? session = some found → found.backend = id →
          (found.react session (found.isTimedOut world.stopwatch) op).ending? ≠ some ending) :
      BackendStep world id request (some backend) (some backend)
  | bound {thread : ThreadId} (options : TxOptions) {backend : Backend}
      (hfree : backend.bound.find? thread = none) :
      BackendStep world id (.start id thread options) (some backend)
        (some { backend with bound := backend.bound.insert thread world.nextSession })
  | ended {session : SessionId} {found : Session} {op : SessionOp} {ending : Ending}
      {backend : Backend} (hfound : world.session? session = some found)
      (hid : found.backend = id)
      (hending :
        (found.react session (found.isTimedOut world.stopwatch) op).ending? = some ending) :
      BackendStep world id (.session session op) (some backend)
        (some (backend.conclude session found ending world.calendar))
  | reset {backend : Backend} :
      BackendStep world id (.resetMetrics id) (some backend)
        (some { backend with metrics := .empty })
  | retired {backend : Backend} :
      BackendStep world id (.around (.retire id)) (some backend)
        (some { backend with live := false })

theorem BackendStep.of_eq {origin : BackendId} {backend? : Option Backend}
    (hreset : request ≠ .resetMetrics origin) (hretire : request ≠ .around (.retire origin))
    (hquiet : ∀ session found op ending, request = .session session op →
      world.session? session = some found → found.backend = origin →
        (found.react session (found.isTimedOut world.stopwatch) op).ending? ≠ some ending) :
    world.BackendStep origin request backend? backend? := by
  cases backend? with
  | none => exact .absent request
  | some backend => exact .kept hreset hretire hquiet

theorem BackendStep.of_unasked {origin : BackendId} {backend? : Option Backend}
    (hreset : request ≠ .resetMetrics origin) (hretire : request ≠ .around (.retire origin))
    (hunasked : ∀ session op, request ≠ .session session op) :
    world.BackendStep origin request backend? backend? :=
  .of_eq hreset hretire fun session _ op _ hrequest => absurd hrequest (hunasked session op)

theorem Step.backend (hstep : Step world request after) (origin : BackendId) :
    world.BackendStep origin request (world.backend? origin) (after.backend? origin) := by
  cases hstep with
  | @started other owner thread options howner hfree =>
    rw [backend?_enroll]
    by_cases hother : origin = other
    · subst hother
      rw [if_pos rfl, howner]
      exact .bound options hfree
    · rw [if_neg hother]
      exact .of_unasked nofun nofun nofun
  | @asked asked found op hfound =>
    have hkept (hquiet : ∀ ending : Ending, found.backend = origin →
          (found.react asked (found.isTimedOut world.stopwatch) op).ending? ≠ some ending) :
        world.BackendStep origin (.session asked op) (world.backend? origin)
          (world.backend? origin) := by
      refine .of_eq nofun nofun ?_
      rintro session other again ending hrequest hother hid
      cases hrequest
      obtain rfl : other = found := Option.some.inj (hother.symm.trans hfound)
      exact hquiet ending hid
    rw [backend?_respond]
    cases hending : (found.react asked (found.isTimedOut world.stopwatch) op).ending? with
    | none =>
      refine hkept ?_
      rw [hending]
      exact nofun
    | some ending =>
      by_cases horigin : origin = found.backend
      · simp only [if_pos horigin]
        cases world.backend? origin with
        | none => exact .absent _
        | some backend => exact .ended hfound horigin.symm hending
      · simp only [if_neg horigin]
        exact hkept fun _ hid => absurd hid.symm horigin
  | reset other =>
    rw [backend?_modifyBackend]
    by_cases hother : origin = other
    · subst hother
      rw [if_pos rfl]
      cases world.backend? origin with
      | none => exact .absent _
      | some backend => exact .reset
    · rw [if_neg hother]
      refine .of_unasked ?_ nofun nofun
      intro hrequest
      cases hrequest
      exact hother rfl
  | around change =>
    cases change with
    | newBackend =>
      rw [Change.apply, backend?_addBackend]
      by_cases hnew : origin = world.nextBackend
      · rw [if_pos hnew, hnew, backend?_nextBackend]
        exact .created
      · rw [if_neg hnew]
        exact .of_unasked nofun nofun nofun
    | retire gone =>
      rw [Change.apply, retire, backend?_modifyBackend]
      by_cases hgone : origin = gone
      · subst hgone
        rw [if_pos rfl]
        cases world.backend? origin with
        | none => exact .absent _
        | some backend => exact .retired
      · rw [if_neg hgone]
        refine .of_unasked nofun ?_ nofun
        intro hrequest
        cases hrequest
        exact hgone rfl
    | passTime nanos =>
      change world.BackendStep origin _ _ (world.backend? origin)
      exact .of_unasked nofun nofun nofun
    | setCalendar time =>
      change world.BackendStep origin _ _ (world.backend? origin)
      exact .of_unasked nofun nofun nofun
  | unknown op hnone =>
    refine .of_eq nofun nofun ?_
    rintro session found again ending hrequest hfound
    cases hrequest
    rw [hnone] at hfound
    cases hfound
  | refused | absent | current | metrics => exact .of_unasked nofun nofun nofun

/-- A backend is there for good. It is live as long as it is not retired, and one that
is gone does not come back. -/
theorem Step.backend_stays {origin : BackendId} {backend : Backend}
    (hstep : Step world request after) (hbackend : world.backend? origin = some backend) :
    ∃ later, after.backend? origin = some later ∧
      (later.live = true ↔ backend.live = true ∧ request ≠ .around (.retire origin)) := by
  have hcases := hstep.backend origin
  rw [hbackend] at hcases
  generalize after.backend? origin = later? at hcases ⊢
  cases hcases with
  | kept hreset hretire => exact ⟨backend, rfl, fun hlive => ⟨hlive, hretire⟩, And.left⟩
  | bound => exact ⟨_, rfl, fun hlive => ⟨hlive, nofun⟩, And.left⟩
  | ended =>
    refine ⟨_, rfl, ?_⟩
    rw [Backend.live_conclude]
    exact ⟨fun hlive => ⟨hlive, nofun⟩, And.left⟩
  | reset => exact ⟨_, rfl, fun hlive => ⟨hlive, nofun⟩, And.left⟩
  | retired => exact ⟨_, rfl, nofun, fun hstays => absurd rfl hstays.2⟩

theorem after_append (world : World) (first rest : List Request) :
    world.after (first ++ rest) = (world.after first).after rest :=
  List.foldl_append

/-- A moment of a run divides the requests of the run. -/
theorem moments_eq_append_cons {world : World} {asked : List Request} {first later : List Moment}
    {moment : Moment} (hasked : world.moments asked = first ++ moment :: later) :
    ∃ before rest, asked = before ++ moment.request :: rest ∧ first = world.moments before ∧
      moment.before = world.after before ∧ later = moment.after.moments rest := by
  induction first generalizing world asked with
  | nil =>
    cases asked with
    | nil => cases hasked
    | cons request rest =>
      obtain ⟨rfl, rfl⟩ := List.cons_eq_cons.1 hasked
      exact ⟨[], rest, rfl, rfl, rfl, rfl⟩
  | cons head tail ih =>
    cases asked with
    | nil => cases hasked
    | cons request rest =>
      obtain ⟨rfl, htail⟩ := List.cons_eq_cons.1 hasked
      obtain ⟨before, after, rfl, rfl, hbefore, hlater⟩ := ih htail
      exact ⟨request :: before, after, rfl, rfl, hbefore, hlater⟩

theorem exists_append_of_mem_moments {world : World} {asked : List Request} {moment : Moment}
    (hmem : moment ∈ world.moments asked) :
    ∃ before rest, asked = before ++ moment.request :: rest ∧
      moment = ⟨world.after before, moment.request⟩ := by
  obtain ⟨first, later, hsplit⟩ := List.mem_iff_append.1 hmem
  obtain ⟨before, rest, hasked, -, hbefore, -⟩ := moments_eq_append_cons hsplit
  exact ⟨before, rest, hasked, by rw [← hbefore]⟩

theorem session?_after (hsession : world.session? id = some session) (asked : List Request) :
    ∃ later, (world.after asked).session? id = some later ∧ later.SameOrigin session := by
  induction asked generalizing world session with
  | nil => exact ⟨session, hsession, .refl session⟩
  | cons request rest ih =>
    obtain ⟨middle, hmiddle, hfirst⟩ := (step_next world request).session_stays hsession
    obtain ⟨later, hlater, hrest⟩ := ih hmiddle
    exact ⟨later, hlater, hrest.trans hfirst⟩

/-- A backend that is in use stays live. -/
theorem live_after {origin : BackendId} {backend : Backend}
    (hbackend : world.backend? origin = some backend) (hlive : backend.live = true)
    {inUse : List BackendId} (hinUse : origin ∈ inUse) {asked : List Request}
    (hallowed : ∀ request ∈ asked, request.isAllowed inUse = true) :
    ∃ later, (world.after asked).backend? origin = some later ∧ later.live = true := by
  induction asked generalizing world backend with
  | nil => exact ⟨backend, hbackend, hlive⟩
  | cons request rest ih =>
    obtain ⟨hfirst, hrest⟩ := List.forall_mem_cons.1 hallowed
    obtain ⟨middle, hmiddle, hstays⟩ := (step_next world request).backend_stays hbackend
    have hrequest : request ≠ .around (.retire origin) := by
      rintro rfl
      simp [Request.isAllowed, hinUse] at hfirst
    exact ih hmiddle (hstays.2 ⟨hlive, hrequest⟩) hrest

theorem next_start_of_free {origin : BackendId} {backend : Backend} {thread : ThreadId}
    (hbackend : world.backend? origin = some backend) (hfree : backend.bound.find? thread = none)
    (options : TxOptions) :
    world.next (.start origin thread options) = world.enroll origin thread options := by
  rw [next_start, run_start_of_free hbackend hfree]

/-- The state of a session, if there is such a session. -/
def stateOf? (world : World) (id : SessionId) : Option TxState :=
  (world.session? id).map (·.state)

/-- The sessions that there are. -/
def sessionIds (world : World) : Finset SessionId :=
  (Finset.range world.sessions.size).image SessionId.mk

/-- The sessions with a property. -/
def sessionsWith (world : World) (keep : Session → Bool) : Finset SessionId :=
  world.sessionIds.filter fun id => (world.session? id).any keep

theorem mem_sessionsWith {keep : Session → Bool} :
    id ∈ world.sessionsWith keep ↔ ∃ session, world.session? id = some session ∧ keep session := by
  have hexists (session : Session) (hsession : world.session? id = some session) :
      ∃ index < world.sessions.size, SessionId.mk index = id := by
    obtain ⟨hindex, -⟩ := Array.getElem?_eq_some_iff.1 hsession
    exact ⟨id.serial, hindex, rfl⟩
  simp only [sessionsWith, sessionIds, Finset.mem_filter, Finset.mem_image, Finset.mem_range,
    Option.any_eq_true]
  constructor
  · rintro ⟨-, hkeep⟩
    exact hkeep
  · rintro ⟨session, hsession, hkeep⟩
    exact ⟨hexists session hsession, session, hsession, hkeep⟩

end World

namespace Moment

/-- A start has succeeded, and the caller has got a handle on the session. -/
def Starts (moment : Moment) (id : BackendId) (thread : ThreadId) (session : SessionId) : Prop :=
  ∃ options, moment.request = .start id thread options ∧
    moment.before.answer (.start id thread options) = (⟨some session⟩, .success)

theorem starts_iff {moment : Moment} {id : BackendId} {thread : ThreadId} {session : SessionId} :
    moment.Starts id thread session ↔
      ∃ options backend, moment.request = .start id thread options ∧
        moment.before.backend? id = some backend ∧ backend.bound.find? thread = none ∧
        session = moment.before.nextSession := by
  constructor
  · rintro ⟨options, hrequest, hanswer⟩
    rw [World.answer_start] at hanswer
    cases hbackend : moment.before.backend? id with
    | none =>
      rw [run_start_of_none hbackend] at hanswer
      cases hanswer
    | some backend =>
      cases hbound : backend.bound.find? thread with
      | some existing =>
        rw [run_start_of_bound hbackend hbound] at hanswer
        cases hanswer
      | none =>
        rw [run_start_of_free hbackend hbound] at hanswer
        have hsession : some moment.before.nextSession = some session :=
          congrArg (fun answer => Transaction.session? answer.1) hanswer
        exact ⟨options, backend, hrequest, rfl, hbound, (Option.some.inj hsession).symm⟩
  · rintro ⟨options, backend, hrequest, hbackend, hfree, rfl⟩
    refine ⟨options, hrequest, ?_⟩
    rw [World.answer_start, run_start_of_free hbackend hfree]
    rfl

/-- The session is started at this moment, with the options that it has and when the
stopwatch shows what it has for its start. -/
structure Opens (moment : Moment) (id : SessionId) (session : Session) : Prop where
  request : moment.request = .start session.backend session.thread session.options
  answer : moment.before.answer (.start session.backend session.thread session.options) =
    (⟨some id⟩, .success)
  stopwatch : moment.before.stopwatch = session.startedAt

end Moment

namespace World

variable {world : World} {id : SessionId} {session : Session}

/-- The session was started at some moment, with what it has. -/
theorem exists_start {asked : List Request}
    (hsession : (initial.after asked).session? id = some session) :
    ∃ start ∈ initial.moments asked, start.Opens id session := by
  induction asked using List.reverseRecOn generalizing session with
  | nil => cases hsession
  | append_singleton asked request ih =>
    rw [exists_mem_moments_concat]
    rw [after_concat] at hsession
    rcases (step_next _ request).session_cases hsession with hold |
      ⟨earlier, op, -, hearlier, rfl⟩ |
      ⟨origin, backend, thread, options, rfl, hbackend, hfree, rfl, rfl⟩
    · exact .inl (ih hold)
    · -- what a session was started with is the same after an operation
      obtain ⟨start, hmem, hrequest, hanswer, hstopwatch⟩ := ih hearlier
      exact .inl ⟨start, hmem, hrequest, hanswer, hstopwatch⟩
    · refine .inr ⟨rfl, ?_, rfl⟩
      change (initial.after asked).answer (.start origin thread options) = _
      rw [answer_start, run_start_of_free hbackend hfree]
      rfl

/-- The session was started by the backend for the thread. -/
def BelongsTo (world : World) (session : SessionId) (id : BackendId) (thread : ThreadId) : Prop :=
  ∃ found, world.session? session = some found ∧ found.backend = id ∧ found.thread = thread

theorem belongsTo_next_iff {world : World} {request : Request} {session : SessionId}
    {id : BackendId} {thread : ThreadId} :
    (world.next request).BelongsTo session id thread ↔
      world.BelongsTo session id thread ∨
        (⟨world, request⟩ : Moment).Starts id thread session := by
  have hstep := step_next world request
  constructor
  · rintro ⟨found, hfound, hid, hthread⟩
    rcases hstep.session_cases hfound with hold | ⟨earlier, op, -, hearlier, rfl⟩ |
      ⟨origin, backend, starter, options, hrequest, hbackend, hfree, hnew, rfl⟩
    · exact .inl ⟨found, hold, hid, hthread⟩
    · exact .inl ⟨earlier, hearlier, hid, hthread⟩
    · obtain ⟨rfl, rfl⟩ : origin = id ∧ starter = thread := ⟨hid, hthread⟩
      exact .inr (Moment.starts_iff.2 ⟨options, backend, hrequest, hbackend, hfree, hnew⟩)
  · rintro (⟨found, hfound, hid, hthread⟩ | hstarts)
    · obtain ⟨later, hlater, hsame⟩ := hstep.session_stays hfound
      exact ⟨later, hlater, hsame.backend.trans hid, hsame.thread.trans hthread⟩
    · obtain ⟨options, backend, hrequest, hbackend, hfree, rfl⟩ := Moment.starts_iff.1 hstarts
      obtain rfl : request = .start id thread options := hrequest
      rw [next_start_of_free hbackend hfree]
      refine ⟨fresh world id thread options, ?_, rfl, rfl⟩
      rw [session?_enroll, if_pos rfl]

/-- A session belongs to the backend and the thread that one start was made for. -/
theorem exists_starts_iff {asked : List Request} {id : BackendId} {thread : ThreadId}
    {session : SessionId} :
    (∃ moment ∈ initial.moments asked, moment.Starts id thread session) ↔
      (initial.after asked).BelongsTo session id thread := by
  induction asked using List.reverseRecOn with
  | nil => simp [moments, after, initial, BelongsTo, session?]
  | append_singleton asked request ih =>
    rw [exists_mem_moments_concat, ih, after_concat, belongsTo_next_iff]

end World

end TxClient.Local
