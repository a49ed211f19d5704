import TxClient.Proofs.Correspondence
import TxClient.Proofs.Local.Request

/-!
Programs over the local sessions and backends, with transactions that have a
body. A program runs on a world, and just the same on a world that keeps a
journal; the journal shows what the program asked, in the bodies too, and the
world at every moment is the one that these requests lead to.
-/

namespace TxClient.Local

/-- A program that makes requests, from any threads, and goes on as the answers
are; the bodies of its transactions are programs as well. What is asked of a
handle or a facade that refers to nothing reaches no session and no backend and
is not among the requests. -/
inductive Program (ρ : Type) where
  | done (result : Except TransactionError ρ)
  | ask (request : Request) (next : request.Answer × ErrorReport → Program ρ)
  | within (txs : Transactions BackendId) (thread : ThreadId) (options : TxOptions)
      (body : Transaction SessionId → Program ρ) (next : Except TransactionError ρ → Program ρ)

namespace Request

instance (request : Request) : Inhabited request.Answer where
  default :=
    match request with
    | start .. | current .. => Transaction.unusable
    | metrics _ => Metrics.empty
    | resetMetrics _ | around _ => ()
    | session _ op => op.noResult

/-- A backend that is in use does not go. -/
def isAllowed (inUse : List BackendId) : Request → Bool
  | around (.retire backend) => !inUse.contains backend
  | _ => true

theorem isAllowed_of_append {first rest : List BackendId} {request : Request}
    (hallowed : request.isAllowed (first ++ rest) = true) : request.isAllowed rest = true := by
  cases request with
  | around change =>
    cases change with
    | retire backend =>
      simp only [isAllowed, List.contains_eq_mem, List.mem_append, Bool.not_eq_true',
        decide_eq_false_iff_not, not_or] at hallowed ⊢
      exact hallowed.2
    | _ => rfl
  | _ => rfl

/-- Make a request, with nothing in the report, if it is allowed. -/
def submit {σ : Type} [Host σ] (inUse : List BackendId) (request : Request) :
    Action σ (request.Answer × ErrorReport) :=
  if request.isAllowed inUse then request.call.run .success else pure (default, .success)

end Request

/-- Run a program. While a transaction runs its body its backend stays, since
the facade that the transaction was begun through still refers to it. -/
def Program.run {ρ σ : Type} [Host σ] (inUse : List BackendId) : Program ρ → Attempt σ ρ
  | done result => ExceptT.mk (pure result)
  | ask request next => ExceptT.mk do
    let answer ← request.submit inUse
    ((next answer).run inUse).run
  | within txs thread options body next => ExceptT.mk do
    let result ← (txs.transactWith thread options fun tx =>
      (body tx).run (txs.backend?.toList ++ inUse)).run
    ((next result).run inUse).run

/-- A transaction with a body is a program on its own. -/
theorem Program.run_within_done {ρ σ : Type} [Host σ] (inUse : List BackendId)
    (txs : Transactions BackendId) (thread : ThreadId) (options : TxOptions)
    (body : Transaction SessionId → Program ρ) :
    ((Program.within txs thread options body .done).run inUse : Attempt σ ρ) =
      txs.transactWith thread options fun tx => (body tx).run (txs.backend?.toList ++ inUse) := by
  simp only [run]
  exact bind_pure _

/-- Two hosts answer all requests alike, as long as no backend in use goes. -/
structure HostsAlike {σ τ : Type} [Host σ] [Host τ] (S : σ → τ → Prop)
    (inUse : List BackendId) : Prop extends Corresponding S BackendId SessionId where
  current : ∀ (backend : BackendId) (thread : ThreadId),
    Call.Related S (Backends.current backend thread) (Backends.current backend thread)
  metrics : ∀ backend : BackendId,
    Call.Related S (Backends.metrics backend) (Backends.metrics backend)
  resetMetrics : ∀ backend : BackendId,
    Call.Related S (Backends.resetMetrics backend) (Backends.resetMetrics backend)
  change : ∀ change : Change, (Request.around change).isAllowed inUse = true →
    Action.Related S (Host.change change) (Host.change change)

section Alike

variable {σ τ ρ : Type} [Host σ] [Host τ] {S : σ → τ → Prop} {inUse : List BackendId}

theorem Request.related (hS : HostsAlike S inUse) {request : Request}
    (hallowed : request.isAllowed inUse = true) :
    Call.Related S (request.call : Call σ _) (request.call : Call τ _) := by
  cases request with
  | start backend thread options => exact hS.callStartWith _ thread options
  | current backend thread =>
    refine Call.Related.forward .getTx (some backend) fun backend => ?_
    exact Call.Related.bind (hS.current backend thread) fun _ => Call.Related.pure _
  | metrics backend => exact Call.Related.forward .metrics (some backend) hS.metrics
  | resetMetrics backend =>
    exact Call.Related.forward .resetMetrics (some backend) hS.resetMetrics
  | session id op =>
    exact Call.Related.forward (.session op) (some id) fun session => hS.perform session op
  | around change =>
    intro report
    exact Action.Related.bind (hS.change change hallowed) fun _ => Action.Related.pure _

theorem Request.submit_related (hS : HostsAlike S inUse) (more : List BackendId)
    (request : Request) :
    Action.Related S (request.submit (more ++ inUse) : Action σ _)
      (request.submit (more ++ inUse) : Action τ _) := by
  unfold submit
  by_cases hallowed : request.isAllowed (more ++ inUse) = true
  · simp only [hallowed, if_true]
    exact Request.related hS (isAllowed_of_append hallowed) .success
  · simp only [hallowed]
    exact Action.Related.pure _

/-- A program cannot tell hosts apart that answer alike. More backends may be in
use, as they are in the body of a transaction. -/
theorem Program.related (hS : HostsAlike S inUse) (program : Program ρ) :
    ∀ more : List BackendId, Attempt.Related S (program.run (more ++ inUse) : Attempt σ ρ)
      (program.run (more ++ inUse) : Attempt τ ρ) := by
  induction program with
  | done result => exact fun more => Action.Related.pure result
  | ask request next ih =>
    intro more
    exact Action.Related.bind (Request.submit_related hS more request) fun answer => ih answer more
  | within txs thread options body next hbody hnext =>
    intro more
    refine Action.Related.bind ?_ fun result => hnext result more
    refine hS.transactWith txs thread options fun tx => ?_
    rw [← List.append_assoc]
    exact hbody tx _

end Alike

/-- A world that keeps a journal of what has been asked of it. -/
structure Journal where
  world : World
  history : List Moment

/-- Let the world act, and write down what it was asked. -/
def Journal.note {α : Type} (request : Request) (action : Action World α) : Action Journal α :=
  fun journal =>
    let outcome := action.run journal.world
    ⟨outcome.value, ⟨outcome.state, journal.history ++ [⟨journal.world, request⟩]⟩,
      outcome.events⟩

instance : Host Journal where
  perform id op := fun report => Journal.note (.session id op) ((perform id op).run report)
  start backend thread options := fun report =>
    Journal.note (.start backend thread options) ((start backend thread options).run report)
  current backend thread := fun report =>
    Journal.note (.current backend thread) ((current backend thread).run report)
  metrics backend := fun report => Journal.note (.metrics backend) ((metrics backend).run report)
  resetMetrics backend := fun report =>
    Journal.note (.resetMetrics backend) ((resetMetrics backend).run report)
  change change := Journal.note (.around change) (Host.change change)

@[simp] theorem Journal.run_note {α : Type} (request : Request) (action : Action World α)
    (journal : Journal) :
    (Journal.note request action).run journal =
      ⟨(action.run journal.world).value,
        ⟨(action.run journal.world).state, journal.history ++ [⟨journal.world, request⟩]⟩,
        (action.run journal.world).events⟩ := rfl

theorem Journal.run_start (backend : BackendId) (thread : ThreadId) (options : TxOptions)
    (report : ErrorReport) :
    (Backends.start backend thread options : Call Journal _).run report =
      Journal.note (.start backend thread options)
        ((start backend thread options).run report) := rfl

/-- A request gets the answer of the world at that moment, and is written down once. -/
theorem Journal.run_call (request : Request) (journal : Journal) :
    let outcome := (request.call.run .success : Action Journal _).run journal
    outcome.value = journal.world.answer request ∧
      outcome.state =
        ⟨journal.world.next request, journal.history ++ [⟨journal.world, request⟩]⟩ := by
  cases request with
  | start backend thread options =>
    intro outcome
    let txs : Transactions BackendId := ⟨some backend, .standard⟩
    have htxs : txs.backend? = some backend := rfl
    have houtcome : outcome = _ :=
      Transactions.run_callStartWith htxs thread options .success journal
    rw [houtcome, World.answer_start, World.next_start, Journal.run_start, Journal.run_note]
    exact ⟨rfl, rfl⟩
  | current | metrics | resetMetrics | session | around => exact ⟨rfl, rfl⟩

/-- The journal accounts for the world: it is the history of requests that lead to
it from where the journal began, and every request was allowed. -/
structure Journal.Explains (origin : World) (inUse : List BackendId) (journal : Journal)
    (world : World) : Prop where
  world_eq : journal.world = world
  asked : ∃ asked : List Request, journal.history = origin.moments asked ∧
    origin.after asked = world ∧ ∀ request ∈ asked, request.isAllowed inUse = true

namespace World

/-- What a session becomes does not depend on the report that is passed in. -/
theorem state_perform (world : World) (id : SessionId) (op : SessionOp) (report : ErrorReport) :
    (((perform id op).run report).run world).state = world.next (.session id op) := by
  rw [next_session]
  cases hsession : world.session? id with
  | none => rw [run_perform_of_none hsession, run_perform_of_none hsession]
  | some session => rw [run_perform hsession, run_perform hsession]

/-- Whether a session is started does not depend on the report that is passed
in. -/
theorem state_start (world : World) (id : BackendId) (thread : ThreadId) (options : TxOptions)
    (report : ErrorReport) :
    (((start id thread options).run report).run world).state =
      world.next (.start id thread options) := by
  rw [next_start]
  cases hbackend : world.backend? id with
  | none => rw [run_start_of_none hbackend, run_start_of_none hbackend]
  | some backend =>
    cases hbound : backend.bound.find? thread with
    | none => rw [run_start_of_free hbackend hbound, run_start_of_free hbackend hbound]
    | some existing =>
      rw [run_start_of_bound hbackend hbound, run_start_of_bound hbackend hbound]

end World

namespace Journal.Explains

variable {origin : World} {inUse : List BackendId}

/-- Writing down what is asked keeps the account complete. -/
theorem note {α : Type} {request : Request} {action : Action World α}
    (hallowed : request.isAllowed inUse = true)
    (hnext : ∀ world, (action.run world).state = world.next request) :
    Action.Related (Explains origin inUse) (Journal.note request action) action := by
  intro journal world hexplains
  obtain ⟨rfl, asked, hhistory, hafter, hall⟩ := hexplains
  refine ⟨rfl, rfl, rfl, asked ++ [request], ?_, ?_, ?_⟩
  · rw [World.moments_concat, hafter, ← hhistory]
    rfl
  · rw [World.after_concat, hafter, hnext]
  · intro earlier hmem
    rcases List.mem_append.1 hmem with hbefore | hlast
    · exact hall earlier hbefore
    · rw [List.mem_singleton.1 hlast]
      exact hallowed

theorem hostsAlike : HostsAlike (Explains origin inUse) inUse where
  perform id op report := note rfl fun world => world.state_perform id op report
  start backend thread options report :=
    note rfl fun world => world.state_start backend thread options report
  current _ _ _ := note rfl fun _ => rfl
  metrics _ _ := note rfl fun _ => rfl
  resetMetrics _ _ := note rfl fun _ => rfl
  change _ hallowed := note hallowed fun _ => rfl

end Journal.Explains

namespace Program

variable {ρ : Type}

/-- The moments of a program that is begun on a world, those in the bodies of its
transactions among them. -/
def historyFrom (inUse : List BackendId) (world : World) (program : Program ρ) : List Moment :=
  ((program.run inUse : Attempt Journal ρ).run.run ⟨world, []⟩).state.history

/-- The moments of a program that is begun when nothing has happened yet. -/
def history (program : Program ρ) : List Moment :=
  program.historyFrom [] World.initial

/-- The requests of a program are all that it does to a world, and no backend
goes among them that is in use. -/
theorem run_explained (inUse : List BackendId) (world : World) (program : Program ρ) :
    let noted := (program.run inUse : Attempt Journal ρ).run.run ⟨world, []⟩
    let outcome := (program.run inUse : Attempt World ρ).run.run world
    outcome.value = noted.value ∧ outcome.events = noted.events ∧
      ∃ asked : List Request, program.historyFrom inUse world = world.moments asked ∧
        outcome.state = world.after asked ∧
        ∀ request ∈ asked, request.isAllowed inUse = true := by
  intro noted outcome
  have hbegin : Journal.Explains world inUse ⟨world, []⟩ world :=
    ⟨rfl, [], rfl, rfl, fun _ hmem => absurd hmem List.not_mem_nil⟩
  obtain ⟨hvalue, hevents, -, asked, hhistory, hafter, hallowed⟩ :=
    Program.related Journal.Explains.hostsAlike program [] _ _ hbegin
  exact ⟨hvalue.symm, hevents.symm, asked, hhistory, hafter.symm, hallowed⟩

/-- At every moment of a program the world is the one that the requests made so far
lead to. -/
theorem exists_asked {program : Program ρ} {past : List Moment}
    (hpast : past <+: program.history) :
    ∃ asked : List Request, past = World.initial.moments asked ∧
      World.initial.reached past = World.initial.after asked := by
  obtain ⟨-, -, asked, hhistory, -, -⟩ := program.run_explained [] World.initial
  rw [history, hhistory] at hpast
  obtain ⟨first, rfl⟩ := World.exists_moments_of_prefix hpast
  exact ⟨first, rfl, World.reached_moments World.initial first⟩

/-- A program that makes requests one after the other, whatever the answers are. -/
def ofRequests : List Request → Program Unit
  | [] => .done (.ok ())
  | request :: rest => .ask request fun _ => ofRequests rest

theorem run_ofRequests (asked : List Request) (journal : Journal) :
    (((ofRequests asked).run [] : Attempt Journal Unit).run.run journal).state =
      ⟨journal.world.after asked, journal.history ++ journal.world.moments asked⟩ := by
  induction asked generalizing journal with
  | nil => simp [ofRequests, run, World.after, World.moments]
  | cons request rest ih =>
    -- nothing is in use outside of a body
    have hallowed : request.isAllowed [] = true := by
      cases request with
      | around change => cases change <;> rfl
      | _ => rfl
    obtain ⟨-, hstate⟩ := Journal.run_call request journal
    simp only [ofRequests, run, Request.submit, hallowed, if_true, ExceptT.run_mk,
      Action.run_bind, ih, hstate]
    simp [World.after, World.moments]

/-- Every run of requests is the history of a program. -/
theorem history_ofRequests (asked : List Request) :
    (ofRequests asked).history = World.initial.moments asked := by
  unfold history historyFrom
  rw [run_ofRequests]
  rfl

end Program

/-- The world at some moment of some program, be it in the body of a
transaction. -/
def World.Reachable (world : World) : Prop :=
  ∃ (ρ : Type) (program : Program ρ) (past : List Moment),
    past <+: program.history ∧ World.initial.reached past = world

theorem World.reachable_after (asked : List Request) : (World.initial.after asked).Reachable := by
  have hhistory := Program.history_ofRequests asked
  exact ⟨Unit, .ofRequests asked, _, hhistory ▸ List.prefix_refl _, World.reached_moments _ asked⟩

end TxClient.Local
