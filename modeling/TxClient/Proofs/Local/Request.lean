import TxClient.Proofs.Forwarding
import TxClient.Proofs.Local.Reaction
import TxClient.Proofs.Local.Start

/-!
Runs over the local sessions and backends, as plain lists of requests. A request
comes through a handle or a facade, from any thread; between requests backends
come and go and the clocks move. A transaction with a body is no request of its
own: it asks for a start, for whatever its body asks, and for the end.
-/

namespace TxClient.Local

/-- What happens around the sessions. -/
inductive Change where
  | newBackend
  /-- Nobody refers to the backend any more. -/
  | retire (backend : BackendId)
  | passTime (nanos : Nat)
  | setCalendar (time : Timestamp)
  deriving DecidableEq, Repr

def Change.apply : Change → World → World
  | newBackend, world => world.addBackend
  | retire backend, world => world.retire backend
  | passTime nanos, world => world.passTime nanos
  | setCalendar time, world => world.setCalendar time

/-- One thing that is asked of the local sessions and backends, or that happens
around them. The thread that asks a session is not told to it. -/
inductive Request where
  | start (backend : BackendId) (thread : ThreadId) (options : TxOptions)
  | current (backend : BackendId) (thread : ThreadId)
  | metrics (backend : BackendId)
  | resetMetrics (backend : BackendId)
  | session (id : SessionId) (op : SessionOp)
  | around (change : Change)
  deriving DecidableEq, Repr

/-- A state that local sessions and backends are kept in. -/
class Host (σ : Type) extends Sessions SessionId σ, Backends BackendId SessionId σ where
  change : Change → Action σ Unit

instance : Host World where
  change change := Action.modify change.apply

namespace Request

/-- The value that answers a request, beside the report. -/
def Answer : Request → Type
  | start .. | current .. => Transaction SessionId
  | metrics _ => Metrics
  | resetMetrics _ | around _ => Unit
  | session _ op => op.Result

/-- A request as it is made through a facade of the backend, or through a handle
on the session. -/
def call {σ : Type} [Host σ] : (request : Request) → Call σ request.Answer
  | start backend thread options =>
    (⟨some backend, .standard⟩ : Transactions BackendId).callStartWith thread options
  | current backend thread =>
    (⟨some backend, .standard⟩ : Transactions BackendId).callCurrent thread
  | metrics backend => (⟨some backend, .standard⟩ : Transactions BackendId).callMetrics
  | resetMetrics backend => (⟨some backend, .standard⟩ : Transactions BackendId).callResetMetrics
  | session id op => (⟨some id⟩ : Transaction SessionId).call op
  | around change => StateT.lift (Host.change change)

end Request

namespace World

/-- The value and the report that answer a request. -/
def answer (world : World) (request : Request) : request.Answer × ErrorReport :=
  ((request.call.run .success).run world).value

/-- The world after a request. -/
def next (world : World) (request : Request) : World :=
  ((request.call.run .success).run world).state

/-- The world after requests, one after the other. -/
def after (world : World) (requests : List Request) : World :=
  requests.foldl next world

theorem after_concat (world : World) (asked : List Request) (request : Request) :
    world.after (asked ++ [request]) = (world.after asked).next request := by
  simp [after]

theorem next_session (world : World) (id : SessionId) (op : SessionOp) :
    world.next (.session id op) = (((perform id op).run .success).run world).state := rfl

theorem answer_session (world : World) (id : SessionId) (op : SessionOp) :
    world.answer (.session id op) = (((perform id op).run .success).run world).value := rfl

theorem next_start (world : World) (id : BackendId) (thread : ThreadId) (options : TxOptions) :
    world.next (.start id thread options) =
      (((Local.start id thread options).run .success).run world).state := by
  let txs : Transactions BackendId := ⟨some id, .standard⟩
  have hnext : world.next (.start id thread options) =
      ((((txs.callStartWith thread options : Call World _).run .success).run world).state) := rfl
  rw [hnext, Transactions.run_callStartWith rfl, backends_start]

theorem answer_start (world : World) (id : BackendId) (thread : ThreadId) (options : TxOptions) :
    let started := (((Local.start id thread options).run .success).run world).value
    world.answer (.start id thread options) =
      (⟨started.1⟩, Transactions.startReport started.1 started.2) := by
  intro started
  let txs : Transactions BackendId := ⟨some id, .standard⟩
  have hanswer : world.answer (.start id thread options) =
      ((((txs.callStartWith thread options : Call World _).run .success).run world).value) := rfl
  rw [hanswer, Transactions.run_callStartWith rfl, backends_start]
  rfl

/-- Who asks for the metrics of a backend gets the record that it keeps. -/
theorem answer_metrics {world : World} {id : BackendId} {backend : Backend}
    (hbackend : world.backend? id = some backend) :
    world.answer (.metrics id) = (backend.metrics, .success) := by
  have hanswer : world.answer (.metrics id) =
      (((world.backend? id).map (·.metrics)).getD .empty, .success) := rfl
  rw [hanswer, hbackend]
  rfl

/-- All that a request can do to a world. -/
inductive Step (world : World) : Request → World → Prop where
  | started {id : BackendId} {backend : Backend} {thread : ThreadId} (options : TxOptions)
      (hbackend : world.backend? id = some backend)
      (hfree : backend.bound.find? thread = none) :
      Step world (.start id thread options) (world.enroll id thread options)
  | refused {id : BackendId} {backend : Backend} {thread : ThreadId} {existing : SessionId}
      (options : TxOptions) (hbackend : world.backend? id = some backend)
      (hbound : backend.bound.find? thread = some existing) :
      Step world (.start id thread options) world
  | absent {id : BackendId} (thread : ThreadId) (options : TxOptions)
      (hbackend : world.backend? id = none) : Step world (.start id thread options) world
  | current (id : BackendId) (thread : ThreadId) : Step world (.current id thread) world
  | metrics (id : BackendId) : Step world (.metrics id) world
  | reset (id : BackendId) :
      Step world (.resetMetrics id)
        (world.modifyBackend id fun backend => { backend with metrics := .empty })
  | asked {id : SessionId} {session : Session} (op : SessionOp)
      (hsession : world.session? id = some session) :
      Step world (.session id op)
        (world.respond id session (session.react id (session.isTimedOut world.stopwatch) op))
  | unknown {id : SessionId} (op : SessionOp) (hsession : world.session? id = none) :
      Step world (.session id op) world
  | around (change : Change) : Step world (.around change) (change.apply world)

theorem step_next (world : World) (request : Request) :
    Step world request (world.next request) := by
  cases request with
  | start id thread options =>
    cases hbackend : world.backend? id with
    | none =>
      rw [next_start, run_start_of_none hbackend]
      exact .absent thread options hbackend
    | some backend =>
      cases hbound : backend.bound.find? thread with
      | none =>
        rw [next_start, run_start_of_free hbackend hbound]
        exact .started options hbackend hbound
      | some existing =>
        rw [next_start, run_start_of_bound hbackend hbound]
        exact .refused options hbackend hbound
  | current id thread => exact .current id thread
  | metrics id => exact .metrics id
  | resetMetrics id => exact .reset id
  | session id op =>
    cases hsession : world.session? id with
    | none =>
      rw [next_session, run_perform_of_none hsession]
      exact .unknown op hsession
    | some session =>
      rw [next_session, run_perform hsession]
      exact .asked op hsession
  | around change => exact .around change

end World

/-- A request, and the world in which it was made. -/
structure Moment where
  before : World
  request : Request

def Moment.after (moment : Moment) : World :=
  moment.before.next moment.request

namespace World

/-- The moments at which requests are made, one after the other. -/
def moments : World → List Request → List Moment
  | _, [] => []
  | world, request :: rest => ⟨world, request⟩ :: (world.next request).moments rest

/-- The world that a history has led to. -/
def reached (world : World) (past : List Moment) : World :=
  (past.getLast?.map Moment.after).getD world

theorem moments_concat (world : World) (asked : List Request) (request : Request) :
    world.moments (asked ++ [request]) = world.moments asked ++ [⟨world.after asked, request⟩] := by
  induction asked generalizing world with
  | nil => rfl
  | cons first rest ih =>
    simp only [List.cons_append, moments, ih, after, List.foldl_cons]

theorem exists_mem_moments_concat {world : World} {asked : List Request} {request : Request}
    {holds : Moment → Prop} :
    (∃ moment ∈ world.moments (asked ++ [request]), holds moment) ↔
      (∃ moment ∈ world.moments asked, holds moment) ∨ holds ⟨world.after asked, request⟩ := by
  simp only [moments_concat, List.mem_append, List.mem_singleton, or_and_right, exists_or,
    exists_eq_left]

theorem reached_moments (world : World) (asked : List Request) :
    world.reached (world.moments asked) = world.after asked := by
  rcases List.eq_nil_or_concat asked with rfl | ⟨first, request, rfl⟩
  · rfl
  · rw [List.concat_eq_append, moments_concat, after_concat]
    simp [reached, Moment.after]

theorem exists_moments_of_prefix {world : World} {asked : List Request} {past : List Moment}
    (hpast : past <+: world.moments asked) : ∃ first, past = world.moments first := by
  induction asked generalizing world past with
  | nil => exact ⟨[], List.prefix_nil.1 hpast⟩
  | cons request rest ih =>
    cases past with
    | nil => exact ⟨[], rfl⟩
    | cons moment later =>
      obtain ⟨rfl, hlater⟩ := List.cons_prefix_cons.1 hpast
      obtain ⟨first, rfl⟩ := ih hlater
      exact ⟨request :: first, rfl⟩

end World

end TxClient.Local
