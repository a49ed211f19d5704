import Mathlib.Algebra.Group.Nat.Defs
import Mathlib.Data.List.DropRight
import TxClient.Proofs.Local.Binding
import TxClient.Proofs.Local.Ending
import TxClient.Proofs.Metrics.Recording

/-!
The metrics of a live backend count its sessions that have come to their end since
the metrics were last reset, each of them once.
-/

namespace TxClient

namespace Metrics

/-- The metrics show how many transactions have ended one way, as far as the counter
goes, and a time if there are any. -/
structure Shows (metrics : Metrics) (ending : Ending) (count : Nat) : Prop where
  counter : (metrics.counter ending).toNat = min (2 ^ 32 - 1) count
  time : (metrics.time? ending).isSome = true ↔ 0 < count

theorem shows_empty (ending : Ending) : empty.Shows ending 0 := by
  cases ending <;> exact ⟨rfl, by simp [time?, empty]⟩

theorem Shows.record {metrics : Metrics} {ending : Ending} {count : Nat}
    (hshows : metrics.Shows ending count) (time : Timestamp) :
    (metrics.record ending time).Shows ending (count + 1) := by
  refine ⟨?_, ?_⟩
  · rw [counter_record_self, toNat_next, hshows.counter]
    omega
  · simp [time?_record_self]

theorem Shows.record_of_ne {metrics : Metrics} {ending other : Ending} {count : Nat}
    (hshows : metrics.Shows ending count) (hother : other ≠ ending) (time : Timestamp) :
    (metrics.record other time).Shows ending count := by
  refine ⟨?_, ?_⟩
  · rw [counter_record_of_ne hother, hshows.counter]
  · rw [time?_record_of_ne hother]
    exact hshows.time

end Metrics

namespace Local

/-- The moments since the metrics of a backend were last reset; all of them if they
never were. -/
def sinceReset (id : BackendId) (past : List Moment) : List Moment :=
  past.rtakeWhile fun moment => moment.request != .resetMetrics id

theorem mem_of_mem_sinceReset {id : BackendId} {past : List Moment} {moment : Moment}
    (hmem : moment ∈ sinceReset id past) : moment ∈ past :=
  (List.rtakeWhile_suffix _ _).subset hmem

theorem sinceReset_concat {id : BackendId} {past : List Moment} {world : World}
    {request : Request} (hrequest : request ≠ .resetMetrics id) :
    sinceReset id (past ++ [⟨world, request⟩]) = sinceReset id past ++ [⟨world, request⟩] :=
  List.rtakeWhile_concat_pos _ _ _ (bne_iff_ne.2 hrequest)

theorem sinceReset_concat_reset (id : BackendId) (past : List Moment) (world : World) :
    sinceReset id (past ++ [⟨world, .resetMetrics id⟩]) = [] := by
  refine List.rtakeWhile_concat_neg _ _ _ ?_
  simp

theorem sinceReset_of_never {id : BackendId} {past : List Moment}
    (hnever : ∀ moment ∈ past, moment.request ≠ .resetMetrics id) : sinceReset id past = past :=
  List.rtakeWhile_eq_self_iff.2 fun moment hmem => bne_iff_ne.2 (hnever moment hmem)

/-- The sessions of a backend that have ended one way since its metrics were last
reset. -/
def Counted (past : List Moment) (id : BackendId) (ending : Ending) (ended : Finset SessionId) :
    Prop :=
  ∀ session, session ∈ ended ↔
    ∃ moment ∈ sinceReset id past, moment.Enters id session ending.state

/-- The metrics count the sessions that have ended since they were last reset. -/
def Accounts (past : List Moment) (id : BackendId) (metrics : Metrics) : Prop :=
  ∀ ending, ∃ ended, Counted past id ending ended ∧ metrics.Shows ending ended.card

section Accounts

variable {past : List Moment} {world : World} {request : Request} {id : BackendId}
  {metrics : Metrics}

theorem Counted.concat_iff {ending : Ending} {ended : Finset SessionId}
    (hcounted : Counted past id ending ended) (hrequest : request ≠ .resetMetrics id)
    (session : SessionId) :
    (∃ other ∈ sinceReset id (past ++ [⟨world, request⟩]), other.Enters id session ending.state) ↔
      session ∈ ended ∨ (⟨world, request⟩ : Moment).Enters id session ending.state := by
  rw [hcounted session, sinceReset_concat hrequest]
  simp only [List.mem_append, List.mem_singleton, or_and_right, exists_or, exists_eq_left]

theorem accounts_of_none
    (hnone : ∀ session ending, ¬ ∃ moment ∈ sinceReset id past,
      moment.Enters id session (Ending.state ending)) : Accounts past id .empty := by
  intro ending
  refine ⟨∅, ?_, Metrics.shows_empty ending⟩
  intro session
  simp [hnone session ending]

theorem accounts_of_reset : Accounts (past ++ [⟨world, .resetMetrics id⟩]) id .empty := by
  refine accounts_of_none ?_
  rw [sinceReset_concat_reset]
  rintro session ending ⟨other, hmem, -⟩
  cases hmem

theorem Accounts.concat_of_quiet (haccounts : Accounts past id metrics)
    (hrequest : request ≠ .resetMetrics id)
    (hquiet : ∀ session ending,
      ¬ (⟨world, request⟩ : Moment).Enters id session (Ending.state ending)) :
    Accounts (past ++ [⟨world, request⟩]) id metrics := by
  intro ending
  obtain ⟨ended, hcounted, hshows⟩ := haccounts ending
  refine ⟨ended, ?_, hshows⟩
  intro session
  rw [hcounted.concat_iff hrequest, or_iff_left (hquiet session ending)]

/-- A session that ends is counted now, and has not been counted before. -/
theorem Accounts.concat_of_ended (haccounts : Accounts past id metrics)
    (hrequest : request ≠ .resetMetrics id) {session : SessionId} {ending : Ending}
    (henters : ∀ other way,
      (⟨world, request⟩ : Moment).Enters id other (Ending.state way) ↔
        other = session ∧ way = ending)
    (hfresh : ¬ ∃ moment ∈ past, moment.Enters id session ending.state) (time : Timestamp) :
    Accounts (past ++ [⟨world, request⟩]) id (metrics.record ending time) := by
  intro way
  obtain ⟨ended, hcounted, hshows⟩ := haccounts way
  by_cases hway : way = ending
  · subst hway
    have hnew : session ∉ ended := by
      rw [hcounted session]
      rintro ⟨earlier, hmem, hended⟩
      exact hfresh ⟨earlier, mem_of_mem_sinceReset hmem, hended⟩
    refine ⟨insert session ended, ?_, ?_⟩
    · intro other
      rw [hcounted.concat_iff hrequest, henters, Finset.mem_insert]
      simp [or_comm]
    · rw [Finset.card_insert_of_notMem hnew]
      exact hshows.record time
  · refine ⟨ended, ?_, hshows.record_of_ne (Ne.symm hway) time⟩
    intro other
    rw [hcounted.concat_iff hrequest, henters]
    simp [hway]

end Accounts

namespace World

/-- A request keeps the account. -/
theorem accounts_concat {asked : List Request} {request : Request} {id : BackendId}
    {backend? : Option Backend} {later : Backend}
    (hstep : (initial.after asked).BackendStep id request backend? (some later))
    (hbackend : (initial.after asked).backend? id = backend?) (hlive : later.live = true)
    (haccounts : ∀ backend, backend? = some backend → backend.live = true →
      Accounts (initial.moments asked) id backend.metrics) :
    Accounts (initial.moments asked ++ [⟨initial.after asked, request⟩]) id later.metrics := by
  cases hstep with
  | created =>
    -- nothing can have been started by a backend that was not there
    refine accounts_of_none ?_
    rintro session ending ⟨moment, hmem, hended⟩
    rw [← moments_concat] at hmem
    obtain ⟨found, hfound, hid, -⟩ :=
      exists_enters_iff.1 ⟨moment, mem_of_mem_sinceReset hmem, hended⟩
    rw [after_concat] at hfound
    obtain ⟨owner, howner⟩ := (Inv.initial.after asked).known session found hfound
    rw [hid, hbackend] at howner
    cases howner
  | kept hreset hretire hquiet =>
    refine (haccounts later rfl hlive).concat_of_quiet hreset ?_
    intro session ending
    rw [enters_iff]
    rintro ⟨found, op, hasked, hfound, hid, hending⟩
    exact hquiet session found op ending hasked hfound hid hending
  | bound =>
    refine (haccounts _ rfl hlive).concat_of_quiet ?_ ?_
    · exact nofun
    · intro session ending
      rw [enters_iff]
      rintro ⟨found, op, hasked, -⟩
      cases hasked
  | ended hfound hid hending =>
    rw [Backend.live_conclude] at hlive
    rw [Backend.conclude_of_live hlive]
    refine (haccounts _ rfl hlive).concat_of_ended ?_ (enters_iff_of_ending hfound hid hending)
      (not_exists_enters_of_isActive hfound (Session.react_of_ending hending).1 id _) _
    exact nofun
  | reset => exact accounts_of_reset
  | retired => cases hlive

/-- At every moment the metrics of a live backend account for its sessions. -/
theorem accounts_moments (asked : List Request) {id : BackendId} {backend : Backend}
    (hbackend : (initial.after asked).backend? id = some backend) (hlive : backend.live = true) :
    Accounts (initial.moments asked) id backend.metrics := by
  induction asked using List.reverseRecOn generalizing backend with
  | nil => cases hbackend
  | append_singleton asked request ih =>
    have hstep := (step_next (initial.after asked) request).backend id
    rw [after_concat] at hbackend
    rw [hbackend] at hstep
    rw [moments_concat]
    exact accounts_concat hstep rfl hlive fun earlier hearlier hstays => ih hearlier hstays

/-- No session is counted for both ways to end. -/
theorem disjoint_counted {asked : List Request} {id : BackendId}
    {committed rolledBack : Finset SessionId}
    (hcommitted : Counted (initial.moments asked) id .commit committed)
    (hrolledBack : Counted (initial.moments asked) id .rollback rolledBack) :
    Disjoint committed rolledBack := by
  have hended {ending : Ending} {ended : Finset SessionId}
      (hcounted : Counted (initial.moments asked) id ending ended) {session : SessionId}
      (hmem : session ∈ ended) :
      ∃ found, (initial.after asked).session? session = some found ∧
      found.state = ending.state := by
    obtain ⟨moment, hmoment, henters⟩ := (hcounted session).1 hmem
    obtain ⟨found, hfound, -, hstate⟩ :=
      exists_enters_iff.1 ⟨moment, mem_of_mem_sinceReset hmoment, henters⟩
    exact ⟨found, hfound, hstate⟩
  rw [Finset.disjoint_left]
  intro session hfirst hsecond
  obtain ⟨first, hfound, hcommit⟩ := hended hcommitted hfirst
  obtain ⟨second, hagain, hrollback⟩ := hended hrolledBack hsecond
  obtain rfl : second = first := Option.some.inj (hagain.symm.trans hfound)
  rw [hcommit] at hrollback
  cases hrollback

/-- The sessions of a backend. -/
def sessionsOf (world : World) (id : BackendId) : Finset SessionId :=
  world.sessionsWith (·.backend == id)

theorem mem_sessionsOf {world : World} {id : BackendId} {session : SessionId} :
    session ∈ world.sessionsOf id ↔ ∃ thread, world.BelongsTo session id thread := by
  rw [sessionsOf, mem_sessionsWith]
  constructor
  · rintro ⟨found, hfound, hid⟩
    exact ⟨found.thread, found, hfound, beq_iff_eq.1 hid, rfl⟩
  · rintro ⟨thread, found, hfound, hid, -⟩
    exact ⟨found, hfound, beq_iff_eq.2 hid⟩

end World

/-- A start on the backend succeeds. -/
def Moment.startsOn (moment : Moment) (id : BackendId) : Bool :=
  match moment.request with
  | .start backend thread options =>
    backend == id && (moment.before.answer (.start backend thread options)).2.isSuccess
  | _ => false

/-- A start succeeds just when its thread has no unfinished session. -/
theorem World.isSuccess_answer_start {world : World} {id : BackendId} {thread : ThreadId}
    {options : TxOptions} :
    (world.answer (.start id thread options)).2.isSuccess = true ↔
      ∃ backend, world.backend? id = some backend ∧ backend.bound.find? thread = none := by
  rw [answer_start]
  cases hbackend : world.backend? id with
  | none =>
    rw [run_start_of_none hbackend]
    simp [Transactions.startReport, ErrorReport.isSuccess, ErrorReport.success]
  | some backend =>
    cases hbound : backend.bound.find? thread with
    | none =>
      rw [run_start_of_free hbackend hbound]
      exact ⟨fun _ => ⟨backend, rfl, hbound⟩, fun _ => rfl⟩
    | some existing =>
      rw [run_start_of_bound hbackend hbound]
      simp [Transactions.startReport, ErrorReport.isSuccess, hbound]

theorem Moment.startsOn_iff {moment : Moment} {id : BackendId} :
    moment.startsOn id = true ↔ ∃ thread, moment.Starts id thread moment.before.nextSession := by
  obtain ⟨world, request⟩ := moment
  simp only [Moment.starts_iff]
  cases request with
  | start backend thread options =>
    simp only [startsOn, Bool.and_eq_true, beq_iff_eq, World.isSuccess_answer_start]
    constructor
    · rintro ⟨rfl, owner, howner, hfree⟩
      exact ⟨thread, options, owner, rfl, howner, hfree, trivial⟩
    · rintro ⟨starter, given, owner, hrequest, howner, hfree, -⟩
      cases hrequest
      exact ⟨rfl, owner, howner, hfree⟩
  | current | metrics | resetMetrics | session | around =>
    refine ⟨nofun, ?_⟩
    rintro ⟨thread, options, backend, hrequest, -⟩
    cases hrequest

namespace World

/-- Every successful start gives the backend one session more. -/
theorem card_sessionsOf (asked : List Request) (id : BackendId) :
    ((initial.after asked).sessionsOf id).card =
      (initial.moments asked).countP (·.startsOn id) := by
  induction asked using List.reverseRecOn with
  | nil => rfl
  | append_singleton asked request ih =>
    rw [moments_concat, after_concat, List.countP_append, ← ih, List.countP_singleton]
    have hmem (session : SessionId) :
        session ∈ ((initial.after asked).next request).sessionsOf id ↔
          session ∈ (initial.after asked).sessionsOf id ∨
            ∃ thread, (⟨initial.after asked, request⟩ : Moment).Starts id thread session := by
      simp only [mem_sessionsOf, belongsTo_next_iff, exists_or]
    by_cases hstarts : (⟨initial.after asked, request⟩ : Moment).startsOn id = true
    · have hnew : (initial.after asked).nextSession ∉ (initial.after asked).sessionsOf id := by
        rw [mem_sessionsOf]
        rintro ⟨thread, found, hfound, -⟩
        rw [session?_nextSession] at hfound
        cases hfound
      have hinsert : ((initial.after asked).next request).sessionsOf id =
          insert (initial.after asked).nextSession ((initial.after asked).sessionsOf id) := by
        ext session
        rw [hmem, Finset.mem_insert, or_comm]
        refine or_congr_left ⟨?_, ?_⟩
        · rintro ⟨thread, hstart⟩
          obtain ⟨-, -, -, -, -, hsession⟩ := Moment.starts_iff.1 hstart
          exact hsession
        · rintro rfl
          exact Moment.startsOn_iff.1 hstarts
      rw [hinsert, Finset.card_insert_of_notMem hnew, if_pos hstarts]
    · have hsame : ((initial.after asked).next request).sessionsOf id =
          (initial.after asked).sessionsOf id := by
        ext session
        rw [hmem]
        refine or_iff_left ?_
        rintro ⟨thread, hstart⟩
        refine hstarts (Moment.startsOn_iff.2 ⟨thread, ?_⟩)
        obtain ⟨-, -, -, -, -, hsession⟩ := Moment.starts_iff.1 hstart
        exact hsession ▸ hstart
      rw [hsame, if_neg hstarts, Nat.add_zero]

/-- A session of a backend is unfinished, or it has ended one way or the other. -/
theorem card_sessionsOf_eq {asked : List Request} {id : BackendId}
    (hnever : ∀ moment ∈ initial.moments asked, moment.request ≠ .resetMetrics id)
    {committed rolledBack : Finset SessionId}
    (hcommitted : Counted (initial.moments asked) id .commit committed)
    (hrolledBack : Counted (initial.moments asked) id .rollback rolledBack) :
    ((initial.after asked).sessionsOf id).card =
      ((initial.after asked).unfinished id).card + (committed.card + rolledBack.card) := by
  have hended {ending : Ending} {ended : Finset SessionId}
      (hcounted : Counted (initial.moments asked) id ending ended) (session : SessionId) :
      session ∈ ended ↔ ∃ found, (initial.after asked).session? session = some found ∧
        found.backend = id ∧ found.state = ending.state := by
    rw [hcounted session, sinceReset_of_never hnever, exists_enters_iff]
  have hunion : (initial.after asked).sessionsOf id =
      (initial.after asked).unfinished id ∪ (committed ∪ rolledBack) := by
    ext session
    rw [Finset.mem_union, Finset.mem_union, mem_unfinished, hended hcommitted,
      hended hrolledBack, mem_sessionsOf]
    constructor
    · rintro ⟨thread, found, hfound, hid, hthread⟩
      have hregular := (Inv.initial.after asked).regular session found hfound
      rcases hregular.state with hactive | hterminal
      · exact .inl ⟨thread, found, hfound, hid, hthread, hactive⟩
      · rcases TxState.isTerminal_iff.1 hterminal with hstate | hstate
        · exact .inr (.inl ⟨found, hfound, hid, hstate⟩)
        · exact .inr (.inr ⟨found, hfound, hid, hstate⟩)
    · rintro (⟨thread, found, hfound, hid, hthread, -⟩ | ⟨found, hfound, hid, -⟩ |
        ⟨found, hfound, hid, -⟩)
      · exact ⟨thread, found, hfound, hid, hthread⟩
      · exact ⟨found.thread, found, hfound, hid, rfl⟩
      · exact ⟨found.thread, found, hfound, hid, rfl⟩
  have hunfinishedOr : Disjoint ((initial.after asked).unfinished id) (committed ∪ rolledBack) := by
    rw [Finset.disjoint_left]
    intro session hunfinished
    obtain ⟨thread, found, hfound, -, -, hactive⟩ := mem_unfinished.1 hunfinished
    have hrunning {ending : Ending} {ended : Finset SessionId}
        (hcounted : Counted (initial.moments asked) id ending ended) : session ∉ ended := by
      rw [hended hcounted]
      rintro ⟨other, hother, -, hstate⟩
      obtain rfl : other = found := Option.some.inj (hother.symm.trans hfound)
      exact TxState.not_isTerminal_of_isActive hactive (hstate ▸ ending.isTerminal_state)
    rw [Finset.mem_union]
    rintro (hmem | hmem)
    · exact hrunning hcommitted hmem
    · exact hrunning hrolledBack hmem
  rw [hunion, Finset.card_union_of_disjoint hunfinishedOr,
    Finset.card_union_of_disjoint (disjoint_counted hcommitted hrolledBack)]

end World

/-- At every moment of a program the metrics of a live backend, which are what a caller
gets who asks for them, count the sessions that ended since they were last reset, as far
as the counters go, and no session twice. Without a reset and without a full counter, the
sessions that are still running and those that are counted are all that were ever
started. -/
theorem Program.metrics_exact {ρ : Type} {program : Program ρ} {past : List Moment}
    (hpast : past <+: program.history) {id : BackendId} {backend : Backend}
    (hbackend : (World.initial.reached past).backend? id = some backend)
    (hlive : backend.live = true) :
    ∃ committed rolledBack : Finset SessionId,
      (∀ session, session ∈ committed ↔
        ∃ moment ∈ sinceReset id past, moment.Enters id session .committed) ∧
      (∀ session, session ∈ rolledBack ↔
        ∃ moment ∈ sinceReset id past, moment.Enters id session .rolledBack) ∧
      backend.metrics.commits.toNat = min (2 ^ 32 - 1) committed.card ∧
      backend.metrics.rollbacks.toNat = min (2 ^ 32 - 1) rolledBack.card ∧
      (backend.metrics.commitTime.isSome = true ↔ 0 < committed.card) ∧
      (backend.metrics.rollbackTime.isSome = true ↔ 0 < rolledBack.card) ∧
      (World.initial.reached past).answer (.metrics id) = (backend.metrics, .success) ∧
      Disjoint committed rolledBack ∧
      (∀ session, past.Pairwise fun first second =>
        ¬ (first.Ends id session ∧ second.Ends id session)) ∧
      ((∀ moment ∈ past, moment.request ≠ .resetMetrics id) →
        committed.card < 2 ^ 32 → rolledBack.card < 2 ^ 32 →
          backend.activeCount + backend.metrics.finished = past.countP (·.startsOn id)) := by
  obtain ⟨asked, rfl, hreached⟩ := Program.exists_asked hpast
  rw [hreached] at hbackend ⊢
  have haccounts := World.accounts_moments asked hbackend hlive
  obtain ⟨committed, hcommitted, hcommits⟩ := haccounts .commit
  obtain ⟨rolledBack, hrolledBack, hrollbacks⟩ := haccounts .rollback
  refine ⟨committed, rolledBack, hcommitted, hrolledBack, hcommits.counter, hrollbacks.counter,
    hcommits.time, hrollbacks.time, World.answer_metrics hbackend,
    World.disjoint_counted hcommitted hrolledBack, World.pairwise_moments asked id, ?_⟩
  intro hnever hroom hroom'
  have hsplit := World.card_sessionsOf_eq hnever hcommitted hrolledBack
  have hactive := (World.Inv.initial.after asked).activeCount_eq_card hbackend hlive
  have hcommit : backend.metrics.commits.toNat = committed.card := by
    rw [← Nat.min_eq_right (Nat.le_pred_of_lt hroom)]
    exact hcommits.counter
  have hrollback : backend.metrics.rollbacks.toNat = rolledBack.card := by
    rw [← Nat.min_eq_right (Nat.le_pred_of_lt hroom')]
    exact hrollbacks.counter
  rw [Metrics.finished, hcommit, hrollback, hactive, ← hsplit, World.card_sessionsOf]

/-- After a transaction whose body succeeded and one whose body failed, one session
is counted on either side, and that is what a caller is told. -/
theorem Program.metrics_exact_after_two :
    let body (result : Except TransactionError Unit) (next : Program Unit) : Program Unit :=
      .within ⟨some ⟨0⟩, .standard⟩ ⟨7⟩ default (fun _ => .done result) fun _ => next
    let program : Program Unit := .ask (.around .newBackend) fun _ =>
      body (.ok ()) (body (.error default) (.done (.ok ())))
    ∃ committed rolledBack : Finset SessionId,
      (∀ session, session ∈ committed ↔
        ∃ moment ∈ sinceReset ⟨0⟩ program.history, moment.Enters ⟨0⟩ session .committed) ∧
      (∀ session, session ∈ rolledBack ↔
        ∃ moment ∈ sinceReset ⟨0⟩ program.history, moment.Enters ⟨0⟩ session .rolledBack) ∧
      committed.card = 1 ∧ rolledBack.card = 1 ∧
      (World.initial.reached program.history).answer (.metrics ⟨0⟩) =
        ((⟨some .epoch, some .epoch, 1, 1⟩ : Metrics), .success) := by
  intro body program
  have hbackend : (World.initial.reached program.history).backend? ⟨0⟩ =
      some ⟨.empty, ⟨some .epoch, some .epoch, 1, 1⟩, true⟩ := rfl
  obtain ⟨committed, rolledBack, hcommitted, hrolledBack, hcommits, hrollbacks, -, -, hanswer, -⟩ :=
    Program.metrics_exact (List.prefix_refl _) hbackend rfl
  have hone : (1 : UInt32).toNat = 1 := rfl
  simp only [hone] at hcommits hrollbacks
  exact ⟨committed, rolledBack, hcommitted, hrolledBack, by omega, by omega, hanswer⟩

end Local

end TxClient
