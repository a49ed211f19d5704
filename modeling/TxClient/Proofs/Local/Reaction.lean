import TxClient.Local.Session

namespace TxClient

/-- The state in which an ending leaves a session. -/
def Ending.state : Ending → TxState
  | .commit => .committed
  | .rollback => .rolledBack

theorem Ending.isTerminal_state (ending : Ending) : ending.state.isTerminal = true := by
  cases ending <;> rfl

theorem TxState.isTerminal_iff {state : TxState} :
    state.isTerminal = true ↔ state = .committed ∨ state = .rolledBack := by
  cases state <;> simp [isTerminal]

theorem TxState.isActive_iff {state : TxState} :
    state.isActive = true ↔ state = .active ∨ state = .markedRollbackOnly := by
  cases state <;> simp [isActive]

theorem TxState.not_isTerminal_of_isActive {state : TxState} (hactive : state.isActive = true) :
    state.isTerminal ≠ true := by
  cases state <;> simp_all [isActive, isTerminal]

namespace Local

/-- What an operation makes of a session, and what it reports. Nothing but the
session itself and the verdict on its time has a part in it. -/
structure Reaction where
  /-- What is put into the report; a success leaves it as it is. -/
  failure? : Option ErrorReport
  state : TxState
  closed : Bool
  /-- The session has come to its end in this very operation. -/
  ending? : Option Ending
  events : List Event

namespace Session

/-- The value of an operation on a session. -/
def answer (session : Session) : (op : SessionOp) → op.Result
  | .isRollbackOnly => session.state.isRollbackOnly
  | .state => session.state
  | .commit | .rollback | .close | .setRollbackOnly => ()

/-- The session stays as it is. -/
def keep (session : Session) : Reaction :=
  ⟨none, session.state, session.closed, none, []⟩

/-- The operation is not allowed, and the session stays as it is. -/
def refuse (session : Session) (message : String) : Reaction :=
  { session.keep with failure? := some ⟨.illegalState, message⟩ }

/-- The session is marked. -/
def mark (session : Session) (id : SessionId) : Reaction :=
  { session.keep with
    state := .markedRollbackOnly
    events := [.stateChange id session.state .markedRollbackOnly] }

/-- The session comes to its end. -/
def finish (session : Session) (id : SessionId) (ending : Ending) : Reaction :=
  { session.keep with
    state := ending.state
    ending? := some ending
    events := [.stateChange id session.state ending.state] }

/-- The session comes to its end because it has used up its time. -/
def expire (session : Session) (id : SessionId) : Reaction :=
  { session.finish id .rollback with
    failure? := some ⟨.txTimeout, timedOutMessage id session.options.timeout⟩
    events := [.stateChange id session.state .rolledBack, .timedOut id] }

/-- The reaction of a session to an operation, where `late` tells whether it has
used up its time. -/
def react (session : Session) (id : SessionId) (late : Bool) : SessionOp → Reaction
  | .commit =>
    if session.closed then session.refuse (closedMessage id)
    else
      match session.state with
      | .active => if late then session.expire id else session.finish id .commit
      | .markedRollbackOnly =>
        { session.finish id .rollback with
          failure? := some ⟨.txRollback, rolledBackMessage id⟩ }
      | state => session.refuse (inactiveMessage id state)
  | .rollback =>
    if session.closed then session.refuse (closedMessage id)
    else
      match session.state with
      | .active | .markedRollbackOnly => session.finish id .rollback
      | .rolledBack => session.keep
      | state => session.refuse (inactiveMessage id state)
  | .close =>
    if session.closed then session.keep
    else if session.state.isActive then
      { session.finish id .rollback with closed := true }
    else { session.keep with closed := true }
  | .setRollbackOnly =>
    if session.closed then session.refuse (closedMessage id)
    else
      match session.state with
      | .active => session.mark id
      | .markedRollbackOnly => session.keep
      | state => session.refuse (inactiveMessage id state)
  | .isRollbackOnly | .state => session.keep

/-- The session after a reaction. What it was started with stays. -/
def after (session : Session) (reaction : Reaction) : Session :=
  { session with state := reaction.state, closed := reaction.closed }

end Session

/-- Record an ending with the backend of a session, and release the thread that
started it. A backend that is gone takes no notice. -/
def Backend.conclude (backend : Backend) (id : SessionId) (session : Session) (ending : Ending)
    (time : Timestamp) : Backend :=
  if backend.live then
    { backend with
      metrics := backend.metrics.record ending time
      bound := backend.bound.release session.thread id }
  else backend

@[simp] theorem Backend.live_conclude (backend : Backend) (id : SessionId) (session : Session)
    (ending : Ending) (time : Timestamp) :
    (backend.conclude id session ending time).live = backend.live := by
  unfold conclude
  split <;> rfl

theorem Backend.conclude_of_live {backend : Backend} (hlive : backend.live = true)
    (id : SessionId) (session : Session) (ending : Ending) (time : Timestamp) :
    backend.conclude id session ending time =
      { backend with
        metrics := backend.metrics.record ending time
        bound := backend.bound.release session.thread id } :=
  if_pos hlive

/-- Let a session and its backend follow a reaction. -/
def World.respond (world : World) (id : SessionId) (session : Session)
    (reaction : Reaction) : World :=
  let moved := world.modifySession id fun _ => session.after reaction
  match reaction.ending? with
  | some ending =>
    moved.modifyBackend session.backend (·.conclude id session ending world.calendar)
  | none => moved

namespace World

theorem modifySession_const {world : World} {id : SessionId} {session : Session}
    (hsession : world.session? id = some session) (change : Session → Session) :
    world.modifySession id change = world.modifySession id fun _ => change session := by
  ext other : 1
  · simp only [session?_modifySession]
    by_cases hother : other = id
    · simp [hother, hsession]
    · simp [hother]
  all_goals rfl

theorem modifySession_self {world : World} {id : SessionId} {session : Session}
    (hsession : world.session? id = some session) :
    (world.modifySession id fun _ => session) = world := by
  ext other : 1
  · rw [session?_modifySession]
    by_cases hother : other = id
    · simp [hother, hsession]
    · simp [hother]
  all_goals rfl

theorem modifySession_modifySession (world : World) (id : SessionId)
    (first second : Session → Session) :
    (world.modifySession id first).modifySession id second =
      world.modifySession id fun session => second (first session) := by
  ext other : 1
  · simp only [session?_modifySession]
    by_cases hother : other = id
    · simp [hother, Function.comp_def]
    · simp [hother]
  all_goals rfl

theorem respond_of_unchanged {world : World} {id : SessionId} {session : Session}
    (hsession : world.session? id = some session) {reaction : Reaction}
    (hstate : reaction.state = session.state) (hclosed : reaction.closed = session.closed)
    (hending : reaction.ending? = none) : world.respond id session reaction = world := by
  have hafter : session.after reaction = session := by
    simp only [Session.after, hstate, hclosed]
  simp only [respond, hending, hafter, modifySession_self hsession]

@[simp] theorem session?_respond (world : World) (id : SessionId) (session : Session)
    (reaction : Reaction) (other : SessionId) :
    (world.respond id session reaction).session? other =
      if other = id then (world.session? other).map fun _ => session.after reaction
      else world.session? other := by
  rw [← session?_modifySession]
  cases hending : reaction.ending? <;> simp [respond, hending]

theorem backend?_respond (world : World) (id : SessionId) (session : Session)
    (reaction : Reaction) (other : BackendId) :
    (world.respond id session reaction).backend? other =
      match reaction.ending? with
      | some ending =>
        if other = session.backend then
          (world.backend? other).map (·.conclude id session ending world.calendar)
        else world.backend? other
      | none => world.backend? other := by
  cases hending : reaction.ending? <;> simp [respond, hending, backend?_modifyBackend]

@[simp] theorem stopwatch_respond (world : World) (id : SessionId) (session : Session)
    (reaction : Reaction) : (world.respond id session reaction).stopwatch = world.stopwatch := by
  cases hending : reaction.ending? <;> simp only [respond, hending] <;> rfl

@[simp] theorem calendar_respond (world : World) (id : SessionId) (session : Session)
    (reaction : Reaction) : (world.respond id session reaction).calendar = world.calendar := by
  cases hending : reaction.ending? <;> simp only [respond, hending] <;> rfl

end World

/-- What an operation can do to the state of a session: nothing, mark it, or
bring it to its end. Only a session that is still running comes to its end. -/
theorem Session.react_cases (session : Session) (id : SessionId) (late : Bool) (op : SessionOp) :
    let reaction := session.react id late op
    reaction.ending? = none ∧ reaction.state = session.state ∨
      reaction.ending? = none ∧ session.state = .active ∧ reaction.state = .markedRollbackOnly ∨
      ∃ ending, reaction.ending? = some ending ∧ session.state.isActive = true ∧
        reaction.state = ending.state := by
  cases op with
  | commit =>
    simp only [Session.react]
    split
    · exact .inl ⟨rfl, rfl⟩
    · split
      · next hstate =>
        split <;> exact .inr (.inr ⟨_, rfl, by simp [hstate, TxState.isActive], rfl⟩)
      · next hstate => exact .inr (.inr ⟨_, rfl, by simp [hstate, TxState.isActive], rfl⟩)
      · exact .inl ⟨rfl, rfl⟩
  | rollback =>
    simp only [Session.react]
    split
    · exact .inl ⟨rfl, rfl⟩
    · split
      · next hstate => exact .inr (.inr ⟨_, rfl, by simp [hstate, TxState.isActive], rfl⟩)
      · next hstate => exact .inr (.inr ⟨_, rfl, by simp [hstate, TxState.isActive], rfl⟩)
      · exact .inl ⟨rfl, rfl⟩
      · exact .inl ⟨rfl, rfl⟩
  | close =>
    simp only [Session.react]
    split
    · exact .inl ⟨rfl, rfl⟩
    · split
      · next hactive => exact .inr (.inr ⟨_, rfl, hactive, rfl⟩)
      · exact .inl ⟨rfl, rfl⟩
  | setRollbackOnly =>
    simp only [Session.react]
    split
    · exact .inl ⟨rfl, rfl⟩
    · split
      · next hstate => exact .inr (.inl ⟨rfl, hstate, rfl⟩)
      · exact .inl ⟨rfl, rfl⟩
      · exact .inl ⟨rfl, rfl⟩
  | isRollbackOnly | state => exact .inl ⟨rfl, rfl⟩

theorem Session.react_of_ending {session : Session} {id : SessionId} {late : Bool}
    {op : SessionOp} {ending : Ending}
    (hending : (session.react id late op).ending? = some ending) :
    session.state.isActive = true ∧ (session.react id late op).state = ending.state := by
  rcases session.react_cases id late op with ⟨hnone, -⟩ | ⟨hnone, -⟩ |
    ⟨other, hother, hactive, hended⟩
  · rw [hnone] at hending
    cases hending
  · rw [hnone] at hending
    cases hending
  · obtain rfl : other = ending := Option.some.inj (hother.symm.trans hending)
    exact ⟨hactive, hended⟩

/-- A session comes to its end just when it is no longer active. -/
theorem Session.react_cases_active (session : Session) (id : SessionId) (late : Bool)
    (op : SessionOp) :
    let reaction := session.react id late op
    reaction.ending? = none ∧ reaction.state.isActive = session.state.isActive ∨
      ∃ ending, reaction.ending? = some ending ∧ session.state.isActive = true ∧
        reaction.state.isActive = false := by
  rcases session.react_cases id late op with ⟨hending, hstate⟩ | ⟨hending, hactive, hmarked⟩ |
    ⟨ending, hending, hactive, hstate⟩
  · exact .inl ⟨hending, by rw [hstate]⟩
  · exact .inl ⟨hending, by rw [hmarked, hactive]; rfl⟩
  · refine .inr ⟨ending, hending, hactive, ?_⟩
    rw [hstate]
    cases ending <;> rfl

/-- A session that has been given up can only be asked for its state. -/
theorem Session.react_of_closed {session : Session} (hclosed : session.closed = true)
    (id : SessionId) (late : Bool) (op : SessionOp) :
    (session.react id late op).state = session.state ∧
      (session.react id late op).closed = true := by
  cases op <;> simp [react, hclosed, keep, refuse]

/-- Only closing gives a session up. -/
theorem Session.closed_react {session : Session} {id : SessionId} {late : Bool} {op : SessionOp}
    (hop : op ≠ .close) : (session.react id late op).closed = session.closed := by
  cases op with
  | close => exact absurd rfl hop
  | commit =>
    simp only [react]
    split
    · rfl
    · split
      · split <;> rfl
      · rfl
      · rfl
  | rollback | setRollbackOnly =>
    simp only [react]
    split
    · rfl
    · split <;> rfl
  | isRollbackOnly | state => rfl

/-- A session runs, marked or not, or it has come to its end. One that has been
given up has come to its end. -/
structure Session.Regular (session : Session) : Prop where
  state : session.state.isActive = true ∨ session.state.isTerminal = true
  closed : session.closed = true → session.state.isTerminal = true

/-- Closing ends a session, unless it has come to its end before. -/
theorem Session.react_close {session : Session} (hregular : session.Regular) (id : SessionId)
    (late : Bool) :
    (session.react id late .close).closed = true ∧
      (session.react id late .close).state.isTerminal = true := by
  simp only [react]
  by_cases hclosed : session.closed = true
  · rw [if_pos hclosed]
    exact ⟨hclosed, hregular.closed hclosed⟩
  · rw [if_neg hclosed]
    by_cases hactive : session.state.isActive = true
    · rw [if_pos hactive]
      exact ⟨rfl, rfl⟩
    · rw [if_neg hactive]
      exact ⟨rfl, hregular.state.resolve_left hactive⟩

theorem Session.Regular.react {session : Session} (hregular : session.Regular)
    (id : SessionId) (late : Bool) (op : SessionOp) :
    (session.after (session.react id late op)).Regular := by
  refine ⟨?_, ?_⟩
  · rcases session.react_cases id late op with ⟨-, hstate⟩ | ⟨-, -, hstate⟩ |
      ⟨ending, -, -, hstate⟩
    · rw [after, hstate]
      exact hregular.state
    · rw [after, hstate]
      exact .inl rfl
    · rw [after, hstate]
      exact .inr ending.isTerminal_state
  · intro hclosed
    by_cases hop : op = .close
    · subst hop
      exact (session.react_close hregular id late).2
    · have hbefore : session.closed = true := (Session.closed_react hop).symm.trans hclosed
      rw [after, (Session.react_of_closed hbefore id late op).1]
      exact hregular.closed hbefore

theorem run_finish (id : SessionId) (session : Session) (ending : Ending) (report : ErrorReport)
    (world : World) :
    ((finish id session ending).run report).run world =
      ⟨((), report),
        world.modifyBackend session.backend (·.conclude id session ending world.calendar), []⟩ := by
  simp only [finish, Call.run_change, Outcome.mk.injEq, true_and, and_true]
  ext other : 1
  · cases hbackend : world.backend? session.backend with
    | none => rfl
    | some backend => cases hlive : backend.live <;> simp [hlive]
  · rw [World.backend?_modifyBackend]
    cases hbackend : world.backend? session.backend with
    | none => by_cases hother : other = session.backend <;> simp [hother, hbackend]
    | some backend =>
      by_cases hother : other = session.backend
      · cases hlive : backend.live <;>
          simp [hother, hbackend, hlive, Backend.conclude, World.backend?_modifyBackend]
      · cases hlive : backend.live <;>
          simp [hother, hlive, World.backend?_modifyBackend]
  all_goals
    cases hbackend : world.backend? session.backend with
    | none => rfl
    | some backend => cases hlive : backend.live <;> simp [hlive, World.modifyBackend]

@[simp] theorem run_moveTo (id : SessionId) (source target : TxState) (report : ErrorReport)
    (world : World) :
    ((moveTo id source target).run report).run world =
      ⟨((), report), world.modifySession id fun session => { session with state := target },
        [.stateChange id source target]⟩ := rfl

section Operations

variable {world : World} {id : SessionId} {session : Session}

theorem run_commit (hsession : world.session? id = some session) (report : ErrorReport) :
    let reaction := session.react id (session.isTimedOut world.stopwatch) .commit
    ((commit id session).run report).run world =
      ⟨((), reaction.failure?.getD report), world.respond id session reaction,
        reaction.events⟩ := by
  have hmove := World.modifySession_const hsession
  simp only [commit, Session.react]
  cases hclosed : session.closed with
  | true => simp [World.respond_of_unchanged hsession, Session.refuse, Session.keep, hclosed]
  | false =>
    cases hstate : session.state
    case active =>
      cases hlate : session.isTimedOut world.stopwatch <;>
        simp [hmove, hlate, run_finish, World.respond, Session.expire, Session.finish,
          Session.keep, Session.after, Ending.state, hstate, hclosed]
    case markedRollbackOnly =>
      simp [hmove, run_finish, World.respond, Session.finish, Session.keep, Session.after,
        Ending.state, hstate, hclosed]
    all_goals
      simp [World.respond_of_unchanged hsession, Session.refuse, Session.keep, hclosed, hstate]

theorem run_rollback (hsession : world.session? id = some session) (late : Bool)
    (report : ErrorReport) :
    let reaction := session.react id late .rollback
    ((rollback id session).run report).run world =
      ⟨((), reaction.failure?.getD report), world.respond id session reaction,
        reaction.events⟩ := by
  have hmove := World.modifySession_const hsession
  simp only [rollback, Session.react]
  cases hclosed : session.closed with
  | true => simp [World.respond_of_unchanged hsession, Session.refuse, Session.keep, hclosed]
  | false =>
    cases hstate : session.state
    case active | markedRollbackOnly =>
      simp [hmove, run_finish, World.respond, Session.finish, Session.keep, Session.after,
        Ending.state, hstate, hclosed]
    all_goals
      simp [World.respond_of_unchanged hsession, Session.refuse, Session.keep, hclosed, hstate]

theorem run_close (hsession : world.session? id = some session) (late : Bool)
    (report : ErrorReport) :
    let reaction := session.react id late .close
    ((close id session).run report).run world =
      ⟨((), reaction.failure?.getD report), world.respond id session reaction,
        reaction.events⟩ := by
  have hmove := World.modifySession_const hsession
  simp only [close, Session.react]
  cases hclosed : session.closed with
  | true => simp [World.respond_of_unchanged hsession, Session.keep, hclosed]
  | false =>
    cases hactive : session.state.isActive <;>
      simp [hmove, run_finish, World.modifySession_modifySession, World.respond, Session.finish,
        Session.keep, Session.after, Ending.state]

theorem run_setRollbackOnly (hsession : world.session? id = some session) (late : Bool)
    (report : ErrorReport) :
    let reaction := session.react id late .setRollbackOnly
    ((setRollbackOnly id session).run report).run world =
      ⟨((), reaction.failure?.getD report), world.respond id session reaction,
        reaction.events⟩ := by
  have hmove := World.modifySession_const hsession
  simp only [setRollbackOnly, Session.react]
  cases hclosed : session.closed with
  | true => simp [World.respond_of_unchanged hsession, Session.refuse, Session.keep, hclosed]
  | false =>
    cases hstate : session.state
    case active =>
      simp [hmove, World.respond, Session.mark, Session.keep, Session.after, hstate, hclosed]
    all_goals
      simp [World.respond_of_unchanged hsession, Session.refuse, Session.keep, hclosed, hstate]

/-- An operation on a session is its reaction: the value, the report, the world
that is left and the events all follow from the session as it was found. The
incoming report is only passed on. -/
theorem run_perform (hsession : world.session? id = some session) (op : SessionOp)
    (report : ErrorReport) :
    let reaction := session.react id (session.isTimedOut world.stopwatch) op
    ((perform id op).run report).run world =
      ⟨(session.answer op, reaction.failure?.getD report), world.respond id session reaction,
        reaction.events⟩ := by
  have hperform : ((perform id op).run report).run world =
      ((performOn id session op).run report).run world := by
    simp [perform, hsession]
  rw [hperform]
  cases op with
  | commit => exact run_commit hsession report
  | rollback => exact run_rollback hsession _ report
  | close => exact run_close hsession _ report
  | setRollbackOnly => exact run_setRollbackOnly hsession _ report
  | isRollbackOnly | state =>
    have hkept : world.respond id session session.keep = world :=
      World.respond_of_unchanged hsession rfl rfl rfl
    simp only [Session.react, hkept]
    rfl

/-- Sessions are referred to by their numbers. -/
theorem sessions_perform (id : SessionId) (op : SessionOp) :
    (Sessions.perform id op : Call World op.Result) = perform id op := rfl

/-- A number that no session has been given names nothing. -/
theorem run_perform_of_none (hsession : world.session? id = none) (op : SessionOp)
    (report : ErrorReport) :
    ((perform id op).run report).run world = ⟨(op.noResult, report), world, []⟩ := by
  simp [perform, hsession]

end Operations

end Local

end TxClient
