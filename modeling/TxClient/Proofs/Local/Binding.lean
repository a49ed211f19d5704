import TxClient.Proofs.Local.History

/-!
The bindings of a live backend are exactly its unfinished sessions, each under the
thread that started it. The thread that finishes a session may be another one.
-/

namespace TxClient.Local

namespace World

/-- The session is one of the backend, was started by the thread, and has not come
to its end. -/
def Unfinished (world : World) (id : BackendId) (thread : ThreadId) (session : SessionId) : Prop :=
  ∃ found, world.session? session = some found ∧ found.backend = id ∧ found.thread = thread ∧
    found.state.isActive = true

/-- A live backend binds its unfinished sessions, each to the thread that started
it. Backends that are gone may keep bindings of sessions that have ended since. -/
def BindsUnfinished (world : World) : Prop :=
  ∀ id backend, world.backend? id = some backend → backend.live = true →
    ∀ thread session,
      backend.bound.find? thread = some session ↔ world.Unfinished id thread session

/-- What holds in a world at every moment. -/
structure Inv (world : World) : Prop where
  bound : world.BindsUnfinished
  known : ∀ id session, world.session? id = some session →
    ∃ backend, world.backend? session.backend = some backend
  regular : ∀ id session, world.session? id = some session → session.Regular

variable {world : World}

theorem unfinished_enroll {origin id : BackendId} {starter thread : ThreadId}
    {options : TxOptions} {session : SessionId} :
    (world.enroll origin starter options).Unfinished id thread session ↔
      (id = origin ∧ thread = starter ∧ session = world.nextSession) ∨
        world.Unfinished id thread session := by
  unfold Unfinished
  rw [session?_enroll]
  by_cases hnew : session = world.nextSession
  · subst hnew
    rw [if_pos rfl, session?_nextSession]
    constructor
    · rintro ⟨found, hfound, rfl, rfl, -⟩
      obtain rfl := Option.some.inj hfound
      exact .inl ⟨rfl, rfl, rfl⟩
    · rintro (⟨rfl, rfl, -⟩ | ⟨found, hfound, -⟩)
      · exact ⟨_, rfl, rfl, rfl, rfl⟩
      · cases hfound
  · simp [hnew]

theorem unfinished_respond {id session : SessionId} {found : Session} {reaction : Reaction}
    (hfound : world.session? id = some found) {backend : BackendId} {thread : ThreadId} :
    (world.respond id found reaction).Unfinished backend thread session ↔
      (session = id ∧ found.backend = backend ∧ found.thread = thread ∧
        reaction.state.isActive = true) ∨
      (session ≠ id ∧ world.Unfinished backend thread session) := by
  unfold Unfinished
  rw [session?_respond]
  by_cases hsame : session = id
  · subst hsame
    simp [hfound, Session.after]
  · simp [hsame]

theorem unfinished_iff {id : SessionId} {found : Session} (hfound : world.session? id = some found)
    {backend : BackendId} {thread : ThreadId} :
    world.Unfinished backend thread id ↔
      found.backend = backend ∧ found.thread = thread ∧ found.state.isActive = true := by
  constructor
  · rintro ⟨other, hother, hrest⟩
    obtain rfl : other = found := Option.some.inj (hother.symm.trans hfound)
    exact hrest
  · intro hrest
    exact ⟨found, hfound, hrest⟩

end World

theorem Session.Regular.fresh (world : World) (id : BackendId) (thread : ThreadId)
    (options : TxOptions) : (world.fresh id thread options).Regular :=
  ⟨.inl rfl, fun hclosed => by cases hclosed⟩

namespace World

variable {world moved : World} {request : Request}

/-- A started session is the only one of its thread, and it is bound. -/
theorem BindsUnfinished.enroll (hbound : world.BindsUnfinished) {origin : BackendId}
    {owner : Backend} {starter : ThreadId} (howner : world.backend? origin = some owner)
    (hfree : owner.bound.find? starter = none) (options : TxOptions) :
    (world.enroll origin starter options).BindsUnfinished := by
  intro id backend hbackend hlive thread session
  rw [unfinished_enroll]
  rw [backend?_enroll] at hbackend
  by_cases horigin : id = origin
  · subst horigin
    rw [if_pos rfl, howner] at hbackend
    obtain rfl := Option.some.inj hbackend
    rw [Bindings.find?_insert_eq_some_iff, hbound id owner howner hlive]
    -- the thread had no binding, hence no unfinished session either
    have hnone : ¬ world.Unfinished id starter session := by
      rw [← hbound id owner howner hlive, hfree]
      exact nofun
    by_cases hthread : thread = starter
    · subst hthread
      simp [hnone]
    · simp [hthread]
  · rw [if_neg horigin] at hbackend
    rw [hbound id backend hbackend hlive]
    simp [horigin]

/-- A session that ends is released from the thread that started it. A session
that goes on stays bound. -/
theorem BindsUnfinished.respond (hbound : world.BindsUnfinished) {id : SessionId}
    {found : Session} (hfound : world.session? id = some found) (late : Bool) (op : SessionOp) :
    (world.respond id found (found.react id late op)).BindsUnfinished := by
  intro origin backend hbackend hlive thread session
  rw [unfinished_respond hfound]
  rw [backend?_respond] at hbackend
  rcases found.react_cases_active id late op with ⟨hending, hactive⟩ |
    ⟨ending, hending, hactive, hended⟩
  · rw [hending] at hbackend
    rw [hbound origin backend hbackend hlive, hactive]
    by_cases hsame : session = id
    · subst hsame
      simp [unfinished_iff hfound]
    · simp [hsame]
  · simp only [hending] at hbackend
    rw [hended]
    by_cases horigin : origin = found.backend
    · subst horigin
      rw [if_pos rfl] at hbackend
      obtain ⟨earlier, hearlier, rfl⟩ := Option.map_eq_some_iff.1 hbackend
      rw [Backend.live_conclude] at hlive
      rw [Backend.conclude_of_live hlive, Bindings.find?_release_eq_some_iff,
        hbound found.backend earlier hearlier hlive]
      by_cases hsame : session = id
      · subst hsame
        rw [unfinished_iff hfound]
        constructor
        · rintro ⟨hother, -, hthread, -⟩
          exact absurd ⟨hthread.symm, rfl⟩ hother
        · rintro (⟨-, -, -, hrunning⟩ | ⟨hother, -⟩)
          · cases hrunning
          · exact absurd rfl hother
      · simp [hsame]
    · rw [if_neg horigin] at hbackend
      rw [hbound origin backend hbackend hlive]
      by_cases hsame : session = id
      · subst hsame
        simp [unfinished_iff hfound, Ne.symm horigin]
      · simp [hsame]

/-- A new backend has no sessions, and one that is gone need not account for its
bindings any more. -/
theorem BindsUnfinished.apply (hbound : world.BindsUnfinished)
    (hknown : ∀ id session, world.session? id = some session →
      ∃ backend, world.backend? session.backend = some backend) (change : Change) :
    (change.apply world).BindsUnfinished := by
  intro id backend hbackend hlive thread session
  have hsame : (change.apply world).Unfinished id thread session ↔
      world.Unfinished id thread session := by
    unfold Unfinished
    rw [session?_apply]
  rw [hsame]
  cases change with
  | newBackend =>
    rw [Change.apply, backend?_addBackend] at hbackend
    by_cases hnew : id = world.nextBackend
    · subst hnew
      rw [if_pos rfl] at hbackend
      obtain rfl := Option.some.inj hbackend
      constructor
      · intro hempty
        cases hempty
      · rintro ⟨found, hfound, horigin, -⟩
        obtain ⟨earlier, hearlier⟩ := hknown session found hfound
        rw [horigin, backend?_nextBackend] at hearlier
        cases hearlier
    · rw [if_neg hnew] at hbackend
      exact hbound id backend hbackend hlive thread session
  | retire gone =>
    rw [Change.apply, retire, backend?_modifyBackend] at hbackend
    by_cases hgone : id = gone
    · rw [if_pos hgone] at hbackend
      obtain ⟨earlier, -, rfl⟩ := Option.map_eq_some_iff.1 hbackend
      cases hlive
    · rw [if_neg hgone] at hbackend
      exact hbound id backend hbackend hlive thread session
  | passTime | setCalendar => exact hbound id backend hbackend hlive thread session

/-- Resetting the metrics of a backend leaves its bindings alone. -/
theorem BindsUnfinished.reset (hbound : world.BindsUnfinished) (origin : BackendId) :
    (world.modifyBackend origin fun backend =>
      { backend with metrics := .empty }).BindsUnfinished := by
  intro id backend hbackend hlive thread session
  rw [backend?_modifyBackend] at hbackend
  by_cases horigin : id = origin
  · rw [if_pos horigin] at hbackend
    obtain ⟨earlier, hearlier, rfl⟩ := Option.map_eq_some_iff.1 hbackend
    exact hbound id earlier hearlier hlive thread session
  · rw [if_neg horigin] at hbackend
    exact hbound id backend hbackend hlive thread session

namespace Inv

theorem initial : World.initial.Inv where
  bound _ _ hbackend := by cases hbackend
  known _ _ hsession := by cases hsession
  regular _ _ hsession := by cases hsession

theorem step (hinv : world.Inv) (hstep : Step world request moved) : moved.Inv where
  bound := by
    cases hstep with
    | started options hbackend hfree => exact hinv.bound.enroll hbackend hfree options
    | asked op hsession => exact hinv.bound.respond hsession _ op
    | around change => exact hinv.bound.apply hinv.known change
    | reset id => exact hinv.bound.reset id
    | refused | absent | current | metrics | unknown => exact hinv.bound
  known id session hsession := by
    have hexists {origin : BackendId} (hold : ∃ backend, world.backend? origin = some backend) :
        ∃ backend, moved.backend? origin = some backend := by
      obtain ⟨backend, hbackend⟩ := hold
      obtain ⟨later, hlater, -⟩ := hstep.backend_stays hbackend
      exact ⟨later, hlater⟩
    rcases hstep.session_cases hsession with hold | ⟨earlier, op, -, hearlier, rfl⟩ |
      ⟨origin, backend, thread, options, -, hbackend, -, -, rfl⟩
    · exact hexists (hinv.known id session hold)
    · exact hexists (hinv.known id earlier hearlier)
    · exact hexists ⟨backend, hbackend⟩
  regular id session hsession := by
    rcases hstep.session_cases hsession with hold | ⟨earlier, op, -, hearlier, rfl⟩ |
      ⟨origin, backend, thread, options, -, hbackend, -, -, rfl⟩
    · exact hinv.regular id session hold
    · exact (hinv.regular id earlier hearlier).react id _ op
    · exact .fresh world origin thread options

theorem after (hinv : world.Inv) (asked : List Request) : (world.after asked).Inv := by
  induction asked generalizing world with
  | nil => exact hinv
  | cons request rest ih => exact ih (hinv.step (step_next world request))

end Inv

theorem Reachable.inv (hreachable : world.Reachable) : world.Inv := by
  obtain ⟨ρ, program, past, hpast, rfl⟩ := hreachable
  obtain ⟨asked, -, hreached⟩ := Program.exists_asked hpast
  rw [hreached]
  exact Inv.initial.after asked

/-- The unfinished sessions of a backend. -/
def unfinished (world : World) (id : BackendId) : Finset SessionId :=
  world.sessionsWith fun session => session.backend == id && session.state.isActive

theorem mem_unfinished {id : BackendId} {session : SessionId} :
    session ∈ world.unfinished id ↔ ∃ thread, world.Unfinished id thread session := by
  rw [unfinished, mem_sessionsWith]
  constructor
  · rintro ⟨found, hfound, hkeep⟩
    obtain ⟨hid, hactive⟩ := Bool.and_eq_true_iff.1 hkeep
    exact ⟨found.thread, found, hfound, beq_iff_eq.1 hid, rfl, hactive⟩
  · rintro ⟨thread, found, hfound, hid, -, hactive⟩
    exact ⟨found, hfound, Bool.and_eq_true_iff.2 ⟨beq_iff_eq.2 hid, hactive⟩⟩

/-- Each unfinished session is bound once, so the bindings count them. -/
theorem Inv.activeCount_eq_card (hinv : world.Inv) {id : BackendId} {backend : Backend}
    (hbackend : world.backend? id = some backend) (hlive : backend.live = true) :
    backend.activeCount = (world.unfinished id).card := by
  have hbound := hinv.bound id backend hbackend hlive
  have hmem (thread : ThreadId) (session : SessionId) :
      (thread, session) ∈ backend.bound.entries ↔ world.Unfinished id thread session :=
    Bindings.find?_eq_some_iff.symm.trans (hbound thread session)
  have hsessions : (backend.bound.entries.map Prod.snd).toFinset = world.unfinished id := by
    ext session
    rw [List.mem_toFinset, mem_unfinished]
    simp [hmem]
  -- a session has one thread, so it cannot be bound to two
  have hdistinct : (backend.bound.entries.map Prod.snd).Nodup := by
    refine List.Nodup.map_on ?_ backend.bound.distinct.of_map
    rintro ⟨first, session⟩ hfirst ⟨second, -⟩ hsecond rfl
    obtain ⟨found, hfound, -, rfl, -⟩ := (hmem first session).1 hfirst
    obtain ⟨-, rfl, -⟩ := (unfinished_iff hfound).1 ((hmem second session).1 hsecond)
    rfl
  calc backend.activeCount
      = (backend.bound.entries.map Prod.snd).length := (List.length_map _).symm
    _ = (backend.bound.entries.map Prod.snd).toFinset.card :=
        (List.toFinset_card_of_nodup hdistinct).symm
    _ = (world.unfinished id).card := by rw [hsessions]

end World

/-- In the past a backend has started the session for the thread, and since then it
has been marked at most. -/
def StillRunning (past : List Moment) (id : BackendId) (thread : ThreadId)
    (session : SessionId) : Prop :=
  (∃ moment ∈ past, moment.Starts id thread session) ∧
    ((World.initial.reached past).stateOf? session = some .active ∨
      (World.initial.reached past).stateOf? session = some .markedRollbackOnly)

theorem stillRunning_iff {asked : List Request} {id : BackendId} {thread : ThreadId}
    {session : SessionId} :
    StillRunning (World.initial.moments asked) id thread session ↔
      (World.initial.after asked).Unfinished id thread session := by
  unfold StillRunning World.Unfinished
  rw [World.exists_starts_iff, World.reached_moments]
  constructor
  · rintro ⟨⟨found, hfound, hid, hthread⟩, hstate⟩
    simp only [World.stateOf?, hfound, Option.map_some, Option.some.injEq] at hstate
    exact ⟨found, hfound, hid, hthread, TxState.isActive_iff.2 hstate⟩
  · rintro ⟨found, hfound, hid, hthread, hstate⟩
    refine ⟨⟨found, hfound, hid, hthread⟩, ?_⟩
    simp only [World.stateOf?, hfound, Option.map_some, Option.some.injEq]
    exact TxState.isActive_iff.1 hstate

/-- At every moment of a program, in the bodies of its transactions too, a live
backend binds a session to a thread just when that thread started it there and it
is still running. So a thread has one such session at most, and the backend counts
them all, whoever finished the others. -/
theorem Program.binds_exactly_running {ρ : Type} {program : Program ρ} {past : List Moment}
    (hpast : past <+: program.history) {id : BackendId} {backend : Backend}
    (hbackend : (World.initial.reached past).backend? id = some backend)
    (hlive : backend.live = true) :
    (∀ thread session,
      backend.bound.find? thread = some session ↔ StillRunning past id thread session) ∧
    (∀ thread first second, StillRunning past id thread first →
      StillRunning past id thread second → first = second) ∧
    ∃ running : Finset SessionId,
      (∀ session, session ∈ running ↔ ∃ thread, StillRunning past id thread session) ∧
        backend.activeCount = running.card := by
  obtain ⟨asked, rfl, hreached⟩ := Program.exists_asked hpast
  rw [hreached] at hbackend
  have hinv : (World.initial.after asked).Inv := World.Inv.initial.after asked
  have hbound (thread : ThreadId) (session : SessionId) :
      backend.bound.find? thread = some session ↔
        StillRunning (World.initial.moments asked) id thread session := by
    rw [stillRunning_iff]
    exact hinv.bound id backend hbackend hlive thread session
  refine ⟨hbound, ?_, (World.initial.after asked).unfinished id, ?_, ?_⟩
  · intro thread first second hfirst hsecond
    have hfound := ((hbound thread first).2 hfirst).symm.trans ((hbound thread second).2 hsecond)
    exact Option.some.inj hfound
  · intro session
    simp only [stillRunning_iff, World.mem_unfinished]
  · exact hinv.activeCount_eq_card hbackend hlive

/-- In the body of a transaction the backend binds the session of that transaction,
and no other. -/
theorem Program.binds_exactly_running_in_body :
    let program : Program Unit :=
      .ask (.around .newBackend) fun _ =>
        .within ⟨some ⟨0⟩, .standard⟩ ⟨7⟩ default (fun _ => .ask (.current ⟨0⟩ ⟨7⟩) fun _ =>
          .done (.ok ())) .done
    let past := program.history.take 3
    let backend : Backend := ⟨Bindings.empty.insert ⟨7⟩ ⟨0⟩, .empty, true⟩
    (backend.bound.find? ⟨7⟩ = some ⟨0⟩ ↔ StillRunning past ⟨0⟩ ⟨7⟩ ⟨0⟩) ∧
      backend.activeCount = 1 :=
  ⟨(Program.binds_exactly_running (List.take_prefix 3 _) rfl rfl).1 ⟨7⟩ ⟨0⟩, rfl⟩

end TxClient.Local
