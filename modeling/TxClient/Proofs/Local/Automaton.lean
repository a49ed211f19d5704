import TxClient.Proofs.Local.History

/-!
A local session on its own. Its answers are those of an automaton that knows nothing
but the operations on the session, and whether each commit came too late. Other
sessions, the threads, and the backend have no part in them.
-/

namespace TxClient.Local

/-- The states that a local session goes through. -/
inductive Phase where
  | active
  | marked
  | committed
  | rolledBack
  deriving DecidableEq, Repr

def Phase.state : Phase → TxState
  | active => .active
  | marked => .markedRollbackOnly
  | committed => .committed
  | rolledBack => .rolledBack

structure Automaton where
  phase : Phase
  closed : Bool
  deriving DecidableEq, Repr

/-- An operation on the session. Only a commit heeds whether it comes too late. -/
structure Inquiry where
  op : SessionOp
  late : Bool
  deriving DecidableEq, Repr

/-- What a caller learns from an operation. -/
structure Reply where
  op : SessionOp
  value : op.Result
  kind : ErrorKind

namespace Automaton

def initial : Automaton :=
  ⟨.active, false⟩

/-- The next state of the automaton, and the kind of its failure or a success. -/
def step (automaton : Automaton) (inquiry : Inquiry) : Automaton × ErrorKind :=
  let refused := (automaton, .illegalState)
  match inquiry.op with
  | .commit =>
    if automaton.closed then refused
    else
      match automaton.phase with
      | .active =>
        if inquiry.late then (⟨.rolledBack, false⟩, .txTimeout)
        else (⟨.committed, false⟩, .success)
      | .marked => (⟨.rolledBack, false⟩, .txRollback)
      | .committed | .rolledBack => refused
  | .rollback =>
    if automaton.closed then refused
    else
      match automaton.phase with
      | .active | .marked => (⟨.rolledBack, false⟩, .success)
      | .rolledBack => (automaton, .success)
      | .committed => refused
  | .close =>
    match automaton.phase with
    | .active | .marked => (⟨.rolledBack, true⟩, .success)
    | .committed | .rolledBack => ({ automaton with closed := true }, .success)
  | .setRollbackOnly =>
    if automaton.closed then refused
    else
      match automaton.phase with
      | .active => (⟨.marked, false⟩, .success)
      | .marked => (automaton, .success)
      | .committed | .rolledBack => refused
  | .isRollbackOnly | .state => (automaton, .success)

/-- The value that the automaton gives. -/
def value (automaton : Automaton) : (op : SessionOp) → op.Result
  | .isRollbackOnly => automaton.phase == .marked || automaton.phase == .rolledBack
  | .state => automaton.phase.state
  | .commit | .rollback | .close | .setRollbackOnly => ()

/-- The replies of the automaton to operations, one after the other. -/
def replies : Automaton → List Inquiry → List Reply
  | _, [] => []
  | automaton, inquiry :: rest =>
    ⟨inquiry.op, automaton.value inquiry.op, (automaton.step inquiry).2⟩ ::
      (automaton.step inquiry).1.replies rest

/-- The automaton is where the session is. It has been given up only at its end. -/
structure Shows (automaton : Automaton) (session : Session) : Prop where
  state : session.state = automaton.phase.state
  closed : session.closed = automaton.closed
  ended : automaton.closed = true → automaton.phase = .committed ∨ automaton.phase = .rolledBack

theorem shows_fresh (world : World) (id : BackendId) (thread : ThreadId) (options : TxOptions) :
    initial.Shows (world.fresh id thread options) :=
  ⟨rfl, rfl, nofun⟩

theorem shows_open {phase : Phase} {session : Session} (hstate : session.state = phase.state)
    (hclosed : session.closed = false) : Shows ⟨phase, false⟩ session :=
  ⟨hstate, hclosed, nofun⟩

theorem Shows.answer {automaton : Automaton} {session : Session} (hshows : automaton.Shows session)
    (op : SessionOp) : session.answer op = automaton.value op := by
  obtain ⟨phase, closed⟩ := automaton
  cases op with
  | isRollbackOnly =>
    simp only [Session.answer, hshows.state]
    cases phase <;> rfl
  | state => exact hshows.state
  | commit | rollback | close | setRollbackOnly => rfl

/-- The session reacts as the automaton does. -/
theorem Shows.react {automaton : Automaton} {session : Session} (hshows : automaton.Shows session)
    (id : SessionId) (late : Bool) (op : SessionOp) :
    let reaction := session.react id late op
    (reaction.failure?.getD .success).kind = (automaton.step ⟨op, late⟩).2 ∧
      (automaton.step ⟨op, late⟩).1.Shows (session.after reaction) := by
  obtain ⟨phase, closed⟩ := automaton
  obtain ⟨hstate, hclosed, hended⟩ := hshows
  cases op with
  | commit =>
    simp only [Session.react, step, hclosed]
    cases closed with
    | true => exact ⟨rfl, hstate, hclosed, hended⟩
    | false =>
      cases phase
      case active =>
        simp only [hstate, Phase.state]
        cases late <;> exact ⟨rfl, shows_open rfl hclosed⟩
      case marked =>
        simp only [hstate, Phase.state]
        exact ⟨rfl, shows_open rfl hclosed⟩
      all_goals
        simp only [hstate, Phase.state]
        exact ⟨rfl, shows_open hstate hclosed⟩
  | rollback =>
    simp only [Session.react, step, hclosed]
    cases closed with
    | true => exact ⟨rfl, hstate, hclosed, hended⟩
    | false =>
      cases phase
      case active | marked =>
        simp only [hstate, Phase.state]
        exact ⟨rfl, shows_open rfl hclosed⟩
      all_goals
        simp only [hstate, Phase.state]
        exact ⟨rfl, shows_open hstate hclosed⟩
  | close =>
    simp only [Session.react, step, hclosed]
    cases closed with
    | true =>
      -- it has come to its end, so the automaton does not move either
      have hphase : phase = .committed ∨ phase = .rolledBack := hended rfl
      simp only [if_true]
      rcases hphase with rfl | rfl
      · exact ⟨rfl, hstate, hclosed, fun _ => .inl rfl⟩
      · exact ⟨rfl, hstate, hclosed, fun _ => .inr rfl⟩
    | false =>
      cases phase
      case active | marked =>
        simp only [hstate, Phase.state, TxState.isActive]
        exact ⟨rfl, rfl, rfl, fun _ => .inr rfl⟩
      case committed =>
        simp only [hstate, Phase.state, TxState.isActive]
        exact ⟨rfl, hstate, rfl, fun _ => .inl rfl⟩
      case rolledBack =>
        simp only [hstate, Phase.state, TxState.isActive]
        exact ⟨rfl, hstate, rfl, fun _ => .inr rfl⟩
  | setRollbackOnly =>
    simp only [Session.react, step, hclosed]
    cases closed with
    | true => exact ⟨rfl, hstate, hclosed, hended⟩
    | false =>
      cases phase
      case active =>
        simp only [hstate, Phase.state]
        exact ⟨rfl, shows_open rfl hclosed⟩
      all_goals
        simp only [hstate, Phase.state]
        exact ⟨rfl, shows_open hstate hclosed⟩
  | isRollbackOnly | state => exact ⟨rfl, hstate, hclosed, hended⟩

end Automaton

namespace Moment

/-- What a moment is for a session: an operation on it, through a handle and by any
thread, with the verdict whether it comes too late. -/
def inquiry? (moment : Moment) (id : SessionId) : Option Inquiry :=
  match moment.request with
  | .session other op =>
    if other = id then
      (moment.before.session? id).map fun session =>
        ⟨op, session.IsLate moment.before.stopwatch⟩
    else none
  | _ => none

/-- What a caller learns at a moment from a session. -/
def reply? (moment : Moment) (id : SessionId) : Option Reply :=
  match moment.request with
  | .session other op =>
    if other = id ∧ (moment.before.session? id).isSome then
      some ⟨op, (moment.before.answer (.session other op)).1,
        (moment.before.answer (.session other op)).2.kind⟩
    else none
  | _ => none

end Moment

namespace Automaton

/-- The automaton follows a session, also before it is started. -/
def Tracks (automaton : Automaton) (world : World) (id : SessionId) : Prop :=
  match world.session? id with
  | some session => automaton.Shows session
  | none => automaton = initial

variable {automaton : Automaton} {world : World} {id : SessionId}

theorem Tracks.shows (htracks : automaton.Tracks world id) {session : Session}
    (hsession : world.session? id = some session) : automaton.Shows session := by
  unfold Tracks at htracks
  rwa [hsession] at htracks

theorem Tracks.eq_initial (htracks : automaton.Tracks world id)
    (hsession : world.session? id = none) : automaton = initial := by
  unfold Tracks at htracks
  rwa [hsession] at htracks

/-- An operation on the session is a step of the automaton, with the same reply. -/
theorem Tracks.asked (htracks : automaton.Tracks world id) {session : Session}
    (hsession : world.session? id = some session) (op : SessionOp) :
    let inquiry : Inquiry := ⟨op, session.isTimedOut world.stopwatch⟩
    let moment : Moment := ⟨world, .session id op⟩
    moment.inquiry? id = some inquiry ∧
      moment.reply? id = some ⟨op, automaton.value op, (automaton.step inquiry).2⟩ ∧
      (automaton.step inquiry).1.Tracks (world.next (.session id op)) id := by
  intro inquiry moment
  have hshows : automaton.Shows session := htracks.shows hsession
  obtain ⟨hkind, hnext⟩ := hshows.react id (session.isTimedOut world.stopwatch) op
  refine ⟨?_, ?_, ?_⟩
  · simp [moment, inquiry, Moment.inquiry?, hsession, session.isTimedOut_eq]
  · have hanswer : world.answer (.session id op) =
        (session.answer op, (session.react id (session.isTimedOut world.stopwatch) op).failure?.getD
          .success) := by
      rw [World.answer_session, run_perform hsession]
    simp [moment, inquiry, Moment.reply?, hsession, hanswer, hshows.answer op, hkind]
  · unfold Tracks
    rw [World.next_session, run_perform hsession, World.session?_respond, if_pos rfl, hsession]
    exact hnext

/-- Whatever else happens leaves the automaton where it is. -/
theorem Tracks.unasked (htracks : automaton.Tracks world id) {request : Request}
    (hrequest : ∀ op session, world.session? id = some session → request ≠ .session id op) :
    (⟨world, request⟩ : Moment).inquiry? id = none ∧
      (⟨world, request⟩ : Moment).reply? id = none ∧
      automaton.Tracks (world.next request) id := by
  have hsilent : (⟨world, request⟩ : Moment).inquiry? id = none ∧
      (⟨world, request⟩ : Moment).reply? id = none := by
    cases request with
    | session other op =>
      simp only [Moment.inquiry?, Moment.reply?]
      by_cases hsame : other = id
      · subst hsame
        cases hsession : world.session? other with
        | none => simp
        | some session => exact absurd rfl (hrequest op session hsession)
      · simp [hsame]
    | _ => exact ⟨rfl, rfl⟩
  refine ⟨hsilent.1, hsilent.2, ?_⟩
  have hstep := World.step_next world request
  unfold Tracks at htracks ⊢
  cases hlater : (world.next request).session? id with
  | none =>
    cases hsession : world.session? id with
    | none =>
      rw [hsession] at htracks
      exact htracks
    | some session =>
      obtain ⟨later, hstays, -⟩ := hstep.session_stays hsession
      rw [hlater] at hstays
      cases hstays
  | some later =>
    rcases hstep.session_cases hlater with hold | ⟨earlier, op, rfl, hearlier, -⟩ |
      ⟨origin, backend, thread, options, -, -, -, rfl, rfl⟩
    · rw [hold] at htracks
      exact htracks
    · exact absurd rfl (hrequest op earlier hearlier)
    · rw [World.session?_nextSession] at htracks
      subst htracks
      exact shows_fresh world origin thread options

theorem replies_moments (htracks : automaton.Tracks world id) (asked : List Request) :
    (world.moments asked).filterMap (·.reply? id) =
      automaton.replies ((world.moments asked).filterMap (·.inquiry? id)) := by
  induction asked generalizing world automaton with
  | nil => rfl
  | cons request rest ih =>
    simp only [World.moments, List.filterMap_cons]
    by_cases hasked : ∃ op session, world.session? id = some session ∧ request = .session id op
    · obtain ⟨op, session, hsession, rfl⟩ := hasked
      obtain ⟨hinquiry, hreply, hnext⟩ := htracks.asked hsession op
      rw [hinquiry, hreply]
      simp only [replies, ih hnext]
    · have hrequest (op : SessionOp) (session : Session)
          (hsession : world.session? id = some session) : request ≠ .session id op := by
        rintro rfl
        exact hasked ⟨op, session, hsession, rfl⟩
      obtain ⟨hinquiry, hreply, hnext⟩ := htracks.unasked hrequest
      rw [hinquiry, hreply]
      exact ih hnext

end Automaton

/-- In every program the replies of a local session are those of its automaton to the
operations on it. What makes a commit of it late is the time that it was given when it
was started, counted from that moment. -/
theorem Program.replies_eq {ρ : Type} (program : Program ρ) (id : SessionId) :
    program.history.filterMap (·.reply? id) =
      Automaton.initial.replies (program.history.filterMap (·.inquiry? id)) ∧
    ∀ past moment session, past ++ [moment] <+: program.history →
      moment.before.session? id = some session → ∃ start ∈ past, start.Opens id session := by
  constructor
  · obtain ⟨asked, hhistory, -⟩ := Program.exists_asked (List.prefix_refl program.history)
    have hinitial : Automaton.initial.Tracks World.initial id := by
      simp [Automaton.Tracks, World.initial, World.session?]
    rw [hhistory]
    exact Automaton.replies_moments hinitial asked
  · intro past moment session hpast hsession
    obtain ⟨asked, hmoments, -⟩ := Program.exists_asked hpast
    obtain ⟨before, rest, -, rfl, hbefore, -⟩ := World.moments_eq_append_cons hmoments.symm
    rw [hbefore] at hsession
    exact World.exists_start hsession

/-- Of two sessions that were given ten nanoseconds one is committed in time and one is
not, counted from the moment at which it was started. -/
theorem Program.replies_eq_of_late :
    let options : TxOptions := ⟨.pessimistic, .repeatableRead, ⟨10, by decide⟩, 0⟩
    let asked : List Request := [.around .newBackend, .around (.passTime 3),
      .start ⟨0⟩ ⟨7⟩ options, .start ⟨0⟩ ⟨8⟩ options, .around (.passTime 10),
      .session ⟨0⟩ .commit, .around (.passTime 1), .session ⟨1⟩ .commit, .session ⟨1⟩ .state]
    (World.initial.moments asked).filterMap (·.reply? ⟨0⟩) = [⟨.commit, (), .success⟩] ∧
      (World.initial.moments asked).filterMap (·.reply? ⟨1⟩) =
        [⟨.commit, (), .txTimeout⟩, ⟨.state, TxState.rolledBack, .success⟩] ∧
      ∃ start ∈ World.initial.moments (asked.take 7),
        start.request = .start ⟨0⟩ ⟨8⟩ options ∧ start.before.stopwatch = 3 := by
  intro options asked
  obtain ⟨hfirst, -⟩ := Program.replies_eq (.ofRequests asked) ⟨0⟩
  obtain ⟨hsecond, hstarted⟩ := Program.replies_eq (.ofRequests asked) ⟨1⟩
  rw [Program.history_ofRequests] at hfirst hsecond hstarted
  have htimely : (World.initial.moments asked).filterMap (·.inquiry? ⟨0⟩) =
      [⟨.commit, false⟩] := by decide
  have hlate : (World.initial.moments asked).filterMap (·.inquiry? ⟨1⟩) =
      [⟨.commit, true⟩, ⟨.state, true⟩] := by decide
  rw [htimely] at hfirst
  rw [hlate] at hsecond
  let late : Moment := ⟨World.initial.after (asked.take 7), .session ⟨1⟩ .commit⟩
  have hpast : World.initial.moments (asked.take 7) ++ [late] <+: World.initial.moments asked :=
    ⟨late.after.moments (asked.drop 8), rfl⟩
  have hsession : late.before.session? ⟨1⟩ = some ⟨options, ⟨8⟩, ⟨0⟩, 3, .active, false⟩ := by
    decide
  obtain ⟨start, hmem, hopens⟩ := hstarted _ late _ hpast hsession
  exact ⟨hfirst, hsecond, start, hmem, hopens.request, hopens.stopwatch⟩

end TxClient.Local
