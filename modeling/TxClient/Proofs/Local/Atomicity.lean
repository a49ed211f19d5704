import TxClient.Proofs.Local.Binding
import TxClient.Proofs.Metrics.Recording

/-!
What is left of a failure. An operation that is refused has changed nothing. A commit
that fails in any other way has rolled its session back, and has changed nothing else.
-/

namespace TxClient.Local

/-- What a call comes to, whatever report it is given. It passes the report on as it is,
or puts its failure in the place of it, and nothing else depends on the report. -/
def Settles {α : Type} (call : Call World α) (world : World) (outcome : Outcome World α)
    (failure? : Option ErrorReport) : Prop :=
  ∀ report, (call.run report).run world =
    ⟨(outcome.value, failure?.getD report), outcome.state, outcome.events⟩

namespace Session

variable {session : Session} {id : SessionId} {late : Bool} {op : SessionOp}
  {failure : ErrorReport}

/-- An operation that fails has been refused, or it is a commit that has rolled the
session back. -/
theorem react_failure_cases (hfailure : (session.react id late op).failure? = some failure) :
    failure.kind = .illegalState ∧ (∃ message, session.react id late op = session.refuse message) ∨
      op = .commit ∧ (failure.kind = .txTimeout ∨ failure.kind = .txRollback) ∧
        (session.react id late op).ending? = some .rollback := by
  -- refusals differ in nothing but their message
  have hrefused {message : String} (hrefuse : (session.refuse message).failure? = some failure) :
      failure.kind = .illegalState ∧ ∃ again, session.refuse message = session.refuse again := by
    obtain rfl := Option.some.inj hrefuse
    exact ⟨rfl, message, rfl⟩
  revert hfailure
  cases op with
  | commit =>
    simp only [react]
    split
    · exact fun hrefuse => .inl (hrefused hrefuse)
    · split
      · split
        · rintro ⟨⟩
          exact .inr ⟨trivial, .inl rfl, rfl⟩
        · rintro ⟨⟩
      · rintro ⟨⟩
        exact .inr ⟨trivial, .inr rfl, rfl⟩
      · exact fun hrefuse => .inl (hrefused hrefuse)
  | rollback =>
    simp only [react]
    split
    · exact fun hrefuse => .inl (hrefused hrefuse)
    · split
      · rintro ⟨⟩
      · rintro ⟨⟩
      · rintro ⟨⟩
      · exact fun hrefuse => .inl (hrefused hrefuse)
  | close =>
    simp only [react]
    split
    · rintro ⟨⟩
    · split <;> rintro ⟨⟩
  | setRollbackOnly =>
    simp only [react]
    split
    · exact fun hrefuse => .inl (hrefused hrefuse)
    · split
      · rintro ⟨⟩
      · rintro ⟨⟩
      · exact fun hrefuse => .inl (hrefused hrefuse)
  | isRollbackOnly | state => rintro ⟨⟩

/-- Closing a session and asking for its state cannot fail. -/
theorem failure?_react_of_quiet (hop : op = .close ∨ op = .isRollbackOnly ∨ op = .state) :
    (session.react id late op).failure? = none := by
  rcases hop with rfl | rfl | rfl
  · simp only [react]
    split
    · rfl
    · split <;> rfl
  · rfl
  · rfl

end Session

/-- One more rollback has been counted, unless the counter was full, and its time is
kept. The thread that was bound to the session is free. Nothing else has changed. -/
structure Backend.RecordsRollback (backend : Backend) (id : SessionId) (thread : ThreadId)
    (time : Timestamp) (later : Backend) : Prop where
  live : later.live = backend.live
  rollbacks : later.metrics.rollbacks.toNat =
    min (2 ^ 32 - 1) (backend.metrics.rollbacks.toNat + 1)
  rollbackTime : later.metrics.rollbackTime = some time
  commits : later.metrics.commits = backend.metrics.commits
  commitTime : later.metrics.commitTime = backend.metrics.commitTime
  bound : backend.bound.find? thread = some id
  free : later.bound.find? thread = none
  threads : ∀ other, other ≠ thread → later.bound.find? other = backend.bound.find? other

/-- The session has been rolled back, no thread is bound to it any more, and its backend
has recorded the rollback if it is still there. Nothing else has changed. -/
structure World.OnlyRollsBack (world : World) (id : SessionId) (session : Session)
    (after : World) : Prop where
  rolledBack : after.session? id = some { session with state := .rolledBack }
  sessions : ∀ other, other ≠ id → after.session? other = world.session? other
  unbound : ∀ other backend, after.backend? other = some backend → backend.live = true →
    ∀ thread, backend.bound.find? thread ≠ some id
  recorded : ∀ backend, world.backend? session.backend = some backend → backend.live = true →
    ∃ later, after.backend? session.backend = some later ∧
      backend.RecordsRollback id session.thread world.calendar later
  gone : ∀ backend, world.backend? session.backend = some backend → backend.live = false →
    after.backend? session.backend = some backend
  backends : ∀ other, other ≠ session.backend → after.backend? other = world.backend? other
  stopwatch : after.stopwatch = world.stopwatch
  calendar : after.calendar = world.calendar

/-- What the failure of an operation on a session tells of the world that is left. -/
structure World.FailsAtomically (world : World) (id : SessionId) (session : Session)
    (op : SessionOp) (failure? : Option ErrorReport) (after : World) : Prop where
  quiet : op = .close ∨ op = .isRollbackOnly ∨ op = .state → failure? = none
  kind : ∀ failure, failure? = some failure → failure.kind = .illegalState ∨
    op = .commit ∧ (failure.kind = .txTimeout ∨ failure.kind = .txRollback)
  refused : ∀ failure, failure? = some failure → failure.kind = .illegalState → after = world
  rolledBack : ∀ failure, failure? = some failure → failure.kind ≠ .illegalState →
    world.OnlyRollsBack id session after

section Atomicity

variable {world : World} {id : SessionId} {session : Session}

theorem Backend.recordsRollback_conclude {backend : Backend} (hlive : backend.live = true)
    (hbound : backend.bound.find? session.thread = some id) (time : Timestamp) :
    backend.RecordsRollback id session.thread time
      (backend.conclude id session .rollback time) := by
  rw [conclude_of_live hlive]
  constructor
  case rollbacks => exact Metrics.toNat_next backend.metrics.rollbacks
  case bound => exact hbound
  case free => exact Bindings.find?_release_self hbound
  case threads => exact fun other hother => Bindings.find?_release_of_ne _ _ hother
  all_goals rfl

/-- A session that is rolled back takes nothing else along. Its backend knew it as
unfinished, under the thread that started it. -/
theorem World.Inv.onlyRollsBack_respond (hinv : world.Inv)
    (hsession : world.session? id = some session) {late : Bool} {op : SessionOp}
    (hop : op ≠ .close) (hending : (session.react id late op).ending? = some .rollback) :
    world.OnlyRollsBack id session (world.respond id session (session.react id late op)) := by
  obtain ⟨hactive, hstate⟩ := Session.react_of_ending hending
  have hafter : session.after (session.react id late op) =
      { session with state := .rolledBack } := by
    rw [Session.after, hstate, Session.closed_react hop]
    rfl
  have hbackend (other : BackendId) :
      (world.respond id session (session.react id late op)).backend? other =
        if other = session.backend then
          (world.backend? other).map (·.conclude id session .rollback world.calendar)
        else world.backend? other := by
    rw [World.backend?_respond, hending]
  constructor
  case rolledBack =>
    rw [World.session?_respond, if_pos rfl, hsession, hafter]
    rfl
  case sessions =>
    intro other hother
    rw [World.session?_respond, if_neg hother]
  case unbound =>
    intro other backend hfound hlive thread hbound
    -- a live backend binds unfinished sessions only, and this one has come to its end
    have hunfinished :=
      (hinv.bound.respond hsession late op other backend hfound hlive thread id).1 hbound
    rcases (World.unfinished_respond hsession).1 hunfinished with ⟨-, -, -, hrunning⟩ | ⟨hself, -⟩
    · rw [hstate] at hrunning
      cases hrunning
    · exact hself rfl
  case recorded =>
    intro backend hfound hlive
    have hbound : backend.bound.find? session.thread = some id :=
      (hinv.bound _ _ hfound hlive _ _).2 ⟨session, hsession, rfl, rfl, hactive⟩
    refine ⟨_, ?_, Backend.recordsRollback_conclude hlive hbound world.calendar⟩
    rw [hbackend, if_pos rfl, hfound]
    rfl
  case gone =>
    intro backend hfound hgone
    have hsame : backend.conclude id session .rollback world.calendar = backend := by
      rw [Backend.conclude, hgone]
      rfl
    rw [hbackend, if_pos rfl, hfound, Option.map_some, hsame]
  case backends =>
    intro other hother
    rw [hbackend, if_neg hother]
  case stopwatch => exact World.stopwatch_respond ..
  case calendar => exact World.calendar_respond ..

theorem World.Inv.failsAtomically_respond (hinv : world.Inv)
    (hsession : world.session? id = some session) (late : Bool) (op : SessionOp) :
    world.FailsAtomically id session op (session.react id late op).failure?
      (world.respond id session (session.react id late op)) := by
  refine ⟨Session.failure?_react_of_quiet, ?_, ?_, ?_⟩
  · intro failure hfailure
    rcases Session.react_failure_cases hfailure with ⟨hkind, -⟩ | ⟨hop, hkind, -⟩
    · exact .inl hkind
    · exact .inr ⟨hop, hkind⟩
  · intro failure hfailure hkind
    rcases Session.react_failure_cases hfailure with ⟨-, message, hrefuse⟩ | ⟨-, hother, -⟩
    · rw [hrefuse]
      exact World.respond_of_unchanged hsession rfl rfl rfl
    · rw [hkind] at hother
      rcases hother with hother | hother <;> cases hother
  · intro failure hfailure hkind
    rcases Session.react_failure_cases hfailure with ⟨hillegal, -⟩ | ⟨rfl, -, hending⟩
    · exact absurd hillegal hkind
    · exact hinv.onlyRollsBack_respond hsession (by decide) hending

/-- The operations of the local sessions and backends are called with any report, be it
left over from an earlier call. A call passes it on, or puts in a failure that does not
depend on it. A start or an operation that is illegal has changed nothing at all; a
commit that fails otherwise has rolled the session back and changed nothing else. -/
theorem World.Reachable.failures_atomic (hreachable : world.Reachable) :
    (∀ id session, world.session? id = some session → ∀ op : SessionOp,
      ∃ outcome failure?, Settles (perform id op) world outcome failure? ∧
        world.FailsAtomically id session op failure? outcome.state) ∧
    (∀ id backend, world.backend? id = some backend → ∀ thread options,
      ∃ outcome failure?, Settles (start id thread options) world outcome failure? ∧
        (failure? = none ∧ outcome.value.isSome = true ∨
          ∃ message, failure? = some ⟨.illegalState, message⟩ ∧ outcome.value = none ∧
            outcome.state = world)) := by
  refine ⟨?_, ?_⟩
  · intro id session hsession op
    exact ⟨⟨_, _, _⟩, _, fun report => run_perform hsession op report,
      hreachable.inv.failsAtomically_respond hsession _ op⟩
  · intro id backend hbackend thread options
    cases hbound : backend.bound.find? thread with
    | none =>
      exact ⟨⟨_, _, _⟩, none, fun report => run_start_of_free hbackend hbound options report,
        .inl ⟨rfl, rfl⟩⟩
    | some existing =>
      exact ⟨⟨_, _, _⟩, some _, fun report => run_start_of_bound hbackend hbound options report,
        .inr ⟨_, rfl, rfl, rfl⟩⟩

/-- A commit of a marked session rolls it back and says so, whatever the report held. It
is the first rollback of its backend that is counted. -/
theorem World.Reachable.failures_atomic_of_marked :
    let world := World.initial.after
      [.around .newBackend, .start ⟨0⟩ ⟨7⟩ default, .session ⟨0⟩ .setRollbackOnly]
    ∃ session after backend, world.session? ⟨0⟩ = some session ∧
      world.OnlyRollsBack ⟨0⟩ session after ∧ after.backend? ⟨0⟩ = some backend ∧
      backend.metrics.rollbacks.toNat = 1 ∧ backend.metrics.commits = 0 ∧
      ∀ report, let outcome := ((perform ⟨0⟩ .commit).run report).run world
        outcome.value.2.kind = .txRollback ∧ outcome.state = after := by
  intro world
  obtain ⟨hsessions, -⟩ := failures_atomic (reachable_after _ : world.Reachable)
  obtain ⟨outcome, failure?, hsettles, hatomic⟩ := hsessions ⟨0⟩ _ rfl .commit
  have hfailed : (((perform ⟨0⟩ .commit).run .success).run world).value.2.kind = .txRollback := by
    decide
  rw [hsettles] at hfailed
  cases failure? with
  | none => cases hfailed
  | some failure =>
    have hkind : failure.kind = .txRollback := hfailed
    have honly := hatomic.rolledBack failure rfl (by rw [hkind]; decide)
    obtain ⟨backend, hbackend, hrecords⟩ := honly.recorded _ rfl rfl
    refine ⟨_, outcome.state, backend, rfl, honly, hbackend, hrecords.rollbacks,
      hrecords.commits, ?_⟩
    intro report
    rw [hsettles]
    exact ⟨hkind, rfl⟩

end Atomicity

end TxClient.Local
