import TxClient.Proofs.Local.History

/-!
How sessions come to their end: a session ends at one moment at most, when it is
asked, and stays as it ended.
-/

namespace TxClient

theorem Ending.state_injective {first second : Ending} (hstate : first.state = second.state) :
    first = second := by
  cases first <;> cases second <;> first | rfl | cases hstate

namespace Local

/-- A session of the backend enters a state that it was not in before. -/
def Moment.Enters (moment : Moment) (id : BackendId) (session : SessionId) (state : TxState) :
    Prop :=
  moment.before.stateOf? session ≠ some state ∧
    ∃ found, moment.after.session? session = some found ∧ found.backend = id ∧
      found.state = state

/-- A session of the backend comes to its end. -/
def Moment.Ends (moment : Moment) (id : BackendId) (session : SessionId) : Prop :=
  moment.Enters id session .committed ∨ moment.Enters id session .rolledBack

theorem Moment.ends_iff {moment : Moment} {id : BackendId} {session : SessionId} :
    moment.Ends id session ↔ ∃ ending : Ending, moment.Enters id session ending.state := by
  constructor
  · rintro (hcommitted | hrolledBack)
    · exact ⟨.commit, hcommitted⟩
    · exact ⟨.rollback, hrolledBack⟩
  · rintro ⟨ending, henters⟩
    cases ending with
    | commit => exact .inl henters
    | rollback => exact .inr henters

namespace World

variable {world moved : World} {request : Request} {id : BackendId} {session : SessionId}

/-- A session that has come to its end stays as it ended. -/
theorem Step.terminal_stays {found : Session} (hstep : Step world request moved)
    (hfound : world.session? session = some found) (hterminal : found.state.isTerminal = true) :
    ∃ later, moved.session? session = some later ∧ later.backend = found.backend ∧
      later.state = found.state := by
  obtain ⟨later, hlater, hsame⟩ := hstep.session_stays hfound
  refine ⟨later, hlater, hsame.backend, ?_⟩
  rcases hstep.session_cases hlater with hold | ⟨earlier, op, -, hearlier, rfl⟩ |
    ⟨origin, backend, thread, options, -, -, -, rfl, -⟩
  · rw [Option.some.inj (hold.symm.trans hfound)]
  · obtain rfl : earlier = found := Option.some.inj (hearlier.symm.trans hfound)
    rcases earlier.react_cases session (earlier.isTimedOut world.stopwatch) op with
      ⟨-, hstate⟩ | ⟨-, hactive, -⟩ | ⟨ending, -, hactive, -⟩
    · exact hstate
    · rw [hactive] at hterminal
      cases hterminal
    · exact absurd hterminal (TxState.not_isTerminal_of_isActive hactive)
  · rw [session?_nextSession] at hfound
    cases hfound

/-- A session enters the state of an ending just when it is asked and ends that
way. -/
theorem enters_iff {ending : Ending} :
    (⟨world, request⟩ : Moment).Enters id session ending.state ↔
      ∃ found op, request = .session session op ∧ world.session? session = some found ∧
        found.backend = id ∧
        (found.react session (found.isTimedOut world.stopwatch) op).ending? = some ending := by
  constructor
  · rintro ⟨hbefore, later, hlater, hid, hstate⟩
    rcases (step_next world request).session_cases hlater with hold |
      ⟨earlier, op, hrequest, hearlier, rfl⟩ |
      ⟨origin, backend, thread, options, -, -, -, -, rfl⟩
    · refine absurd ?_ hbefore
      rw [stateOf?, hold, Option.map_some, hstate]
    · refine ⟨earlier, op, hrequest, hearlier, hid, ?_⟩
      rcases earlier.react_cases session (earlier.isTimedOut world.stopwatch) op with
        ⟨-, hkept⟩ | ⟨-, -, hmarked⟩ | ⟨other, hending, -, hended⟩
      · refine absurd ?_ hbefore
        rw [stateOf?, hearlier, Option.map_some, ← hkept]
        exact congrArg some hstate
      · have hrunning : TxState.markedRollbackOnly = ending.state := hmarked.symm.trans hstate
        cases ending <;> cases hrunning
      · obtain rfl : other = ending := Ending.state_injective (hended.symm.trans hstate)
        exact hending
    · have hrunning : TxState.active = ending.state := hstate
      cases ending <;> cases hrunning
  · rintro ⟨found, op, rfl, hfound, hid, hending⟩
    obtain ⟨hactive, hended⟩ := Session.react_of_ending hending
    refine ⟨?_, ?_⟩
    · rw [stateOf?, hfound, Option.map_some, ne_eq, Option.some.injEq]
      intro hsame
      exact TxState.not_isTerminal_of_isActive hactive (hsame ▸ ending.isTerminal_state)
    · rw [Moment.after, next_session, run_perform hfound, session?_respond, if_pos rfl, hfound]
      exact ⟨_, rfl, hid, hended⟩

/-- The sessions that are at their end are those that have entered it. -/
theorem exists_enters_iff {asked : List Request} {ending : Ending} :
    (∃ moment ∈ initial.moments asked, moment.Enters id session ending.state) ↔
      ∃ found, (initial.after asked).session? session = some found ∧ found.backend = id ∧
        found.state = ending.state := by
  induction asked using List.reverseRecOn with
  | nil => simp [moments, after, initial, session?]
  | append_singleton asked request ih =>
    rw [exists_mem_moments_concat, ih, after_concat]
    have hstep := step_next (initial.after asked) request
    constructor
    · rintro (⟨found, hfound, hid, hstate⟩ | ⟨-, hafter⟩)
      · have hterminal : found.state.isTerminal = true := hstate ▸ ending.isTerminal_state
        obtain ⟨later, hlater, hbackend, hkept⟩ := hstep.terminal_stays hfound hterminal
        exact ⟨later, hlater, hbackend.trans hid, hkept.trans hstate⟩
      · exact hafter
    · rintro ⟨later, hlater, hid, hstate⟩
      by_cases hbefore : (initial.after asked).stateOf? session = some ending.state
      · obtain ⟨found, hfound, hended⟩ := Option.map_eq_some_iff.1 hbefore
        obtain ⟨other, hother, hsame⟩ := hstep.session_stays hfound
        obtain rfl : other = later := Option.some.inj (hother.symm.trans hlater)
        exact .inl ⟨found, hfound, hsame.backend.symm.trans hid, hended⟩
      · exact .inr ⟨hbefore, later, hlater, hid, hstate⟩

theorem enters_iff_of_ending {found : Session} {op : SessionOp} {ending : Ending}
    (hfound : world.session? session = some found) (hid : found.backend = id)
    (hending : (found.react session (found.isTimedOut world.stopwatch) op).ending? = some ending)
    (other : SessionId) (way : Ending) :
    (⟨world, .session session op⟩ : Moment).Enters id other way.state ↔
      other = session ∧ way = ending := by
  rw [enters_iff]
  constructor
  · rintro ⟨again, same, hasked, hagain, -, hway⟩
    cases hasked
    obtain rfl : again = found := Option.some.inj (hagain.symm.trans hfound)
    exact ⟨rfl, Option.some.inj (hway.symm.trans hending)⟩
  · rintro ⟨rfl, rfl⟩
    exact ⟨found, op, rfl, hfound, hid, hending⟩

theorem not_exists_enters_of_isActive {asked : List Request} {found : Session}
    (hfound : (initial.after asked).session? session = some found)
    (hactive : found.state.isActive = true) (id : BackendId) (ending : Ending) :
    ¬ ∃ moment ∈ initial.moments asked, moment.Enters id session ending.state := by
  rw [exists_enters_iff]
  rintro ⟨again, hagain, -, hended⟩
  obtain rfl : again = found := Option.some.inj (hagain.symm.trans hfound)
  exact TxState.not_isTerminal_of_isActive hactive (hended ▸ ending.isTerminal_state)

/-- No session comes to its end twice, be it in one way or in both. -/
theorem pairwise_moments (asked : List Request) (id : BackendId) (session : SessionId) :
    (initial.moments asked).Pairwise fun first second =>
      ¬ (first.Ends id session ∧ second.Ends id session) := by
  induction asked using List.reverseRecOn with
  | nil => exact .nil
  | append_singleton asked request ih =>
    rw [moments_concat, List.pairwise_append]
    refine ⟨ih, List.pairwise_singleton _ _, ?_⟩
    intro first hfirst second hsecond
    obtain rfl := List.mem_singleton.1 hsecond
    rintro ⟨hended, hagain⟩
    obtain ⟨ending, hended⟩ := Moment.ends_iff.1 hended
    obtain ⟨way, hagain⟩ := Moment.ends_iff.1 hagain
    obtain ⟨found, op, -, hfound, -, hending⟩ := enters_iff.1 hagain
    exact not_exists_enters_of_isActive hfound (Session.react_of_ending hending).1 id ending
      ⟨first, hfirst, hended⟩

end World

end Local

end TxClient
