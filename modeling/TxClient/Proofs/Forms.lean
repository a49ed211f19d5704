import TxClient.Proofs.Forwarding

/-!
The two forms of every operation of handles and facades, over any implementation.
Both ask the implementation once, with a success in the report, and agree on what
they pass on; a handle or facade that refers to nothing asks nobody. What is asked
is seen in a list that a watched implementation keeps.
-/

namespace TxClient

variable {σ β ι α : Type}

/-- What can be asked of a session or of a backend. -/
inductive Service where
  | session (op : SessionOp)
  | start (thread : ThreadId) (options : TxOptions)
  | current (thread : ThreadId)
  | metrics
  | resetMetrics
  deriving DecidableEq, Repr

namespace Service

/-- Those who can be asked for it. -/
def Provider (β ι : Type) : Service → Type
  | session _ => ι
  | start .. | current _ | metrics | resetMetrics => β

/-- What a provider gives, beside its report. -/
def Yield (ι : Type) : Service → Type
  | session op => op.Result
  | start .. | current _ => Option ι
  | metrics => Metrics
  | resetMetrics => Unit

/-- What a handle or a facade gives, beside its report. -/
def Answer (ι : Type) : Service → Type
  | session op => op.Result
  | start .. | current _ => Transaction ι
  | metrics => Metrics
  | resetMetrics => Unit

def operation : Service → Operation
  | session op => .session op
  | start .. => .txStart
  | current _ => .getTx
  | metrics => .metrics
  | resetMetrics => .resetMetrics

def provide [Sessions ι σ] [Backends β ι σ] :
    (service : Service) → service.Provider β ι → Call σ (service.Yield ι)
  | session op => fun asked : ι => Sessions.perform asked op
  | start thread options => fun backend : β => Backends.start backend thread options
  | current thread => fun backend : β => Backends.current backend thread
  | metrics => fun backend : β => Backends.metrics backend
  | resetMetrics => fun backend : β => Backends.resetMetrics backend

/-- What is logged before a provider is asked. -/
def announcement : Service → List Event
  | start _ options =>
    [.forwarding .txStart, .starting options.concurrency options.isolation
      (.ofNat options.timeout.wholeMillis) options.size]
  | service => [.forwarding service.operation]

/-- What is made of a reply. It is passed on, but that a start without a session and
without a failure is a failure. -/
def passOn : (service : Service) → service.Yield ι × ErrorReport → service.Answer ι × ErrorReport
  | start .., (session?, report) => (⟨session?⟩, Transactions.startReport session? report)
  | current _, (session?, report) => (⟨session?⟩, report)
  | session _, reply | metrics, reply | resetMetrics, reply => reply

/-- What is given where nobody can be asked. -/
def nothing : (service : Service) → service.Answer ι
  | session op => op.noResult
  | start .. | current _ => Transaction.unusable
  | metrics => Metrics.empty
  | resetMetrics => ()

end Service

/-- A provider has been asked, with what it found in its report. -/
structure Consultation (β ι : Type) where
  service : Service
  provider : service.Provider β ι
  report : ErrorReport

/-- The state of an implementation, with all that it has been asked. -/
structure Watched (β ι σ : Type) where
  state : σ
  consulted : List (Consultation β ι)

namespace Watched

/-- Let a provider answer, and write down that it was asked. -/
def watch (service : Service) (provider : service.Provider β ι) (call : Call σ α) :
    Call (Watched β ι σ) α :=
  fun report watched =>
    let outcome := (call.run report).run watched.state
    ⟨outcome.value, ⟨outcome.state, watched.consulted ++ [⟨service, provider, report⟩]⟩,
      outcome.events⟩

instance [Sessions ι σ] : Sessions ι (Watched β ι σ) where
  perform session op := watch (.session op) session (Sessions.perform session op)

instance [Backends β ι σ] : Backends β ι (Watched β ι σ) where
  start backend thread options :=
    watch (.start thread options) backend (Backends.start backend thread options)
  current backend thread := watch (.current thread) backend (Backends.current backend thread)
  metrics backend := watch .metrics backend (Backends.metrics backend)
  resetMetrics backend := watch .resetMetrics backend (Backends.resetMetrics backend)

end Watched

/-- An operation of a handle or of a facade. -/
inductive Ask (β ι : Type) where
  | session (tx : Transaction ι) (op : SessionOp)
  | start (txs : Transactions β) (thread : ThreadId)
  | startWith (txs : Transactions β) (thread : ThreadId) (options : TxOptions)
  | current (txs : Transactions β) (thread : ThreadId)
  | metrics (txs : Transactions β)
  | resetMetrics (txs : Transactions β)

namespace Ask

def service : Ask β ι → Service
  | session _ op => .session op
  | start txs thread => .start thread txs.config.txOptions
  | startWith _ thread options => .start thread options
  | current _ thread => .current thread
  | metrics _ => .metrics
  | resetMetrics _ => .resetMetrics

/-- What the handle or the facade refers to. -/
def provider? : (ask : Ask β ι) → Option (ask.service.Provider β ι)
  | session tx _ => tx.session?
  | start txs _ | startWith txs _ _ | current txs _ | metrics txs | resetMetrics txs => txs.backend?

/-- Who is asked: the provider once, if there is one. -/
def consultations (ask : Ask β ι) : List (Consultation β ι) :=
  (ask.provider?.map fun provider => ⟨ask.service, provider, .success⟩).toList

section Forms

variable [Sessions ι σ] [Backends β ι σ]

/-- The form that fills the caller's report. -/
def call : (ask : Ask β ι) → Call σ (ask.service.Answer ι)
  | session tx op => tx.call op
  | start txs thread => txs.callStart thread
  | startWith txs thread options => txs.callStartWith thread options
  | current txs thread => txs.callCurrent thread
  | metrics txs => txs.callMetrics
  | resetMetrics txs => txs.callResetMetrics

/-- The form that raises a failure. -/
def attempt : (ask : Ask β ι) → Attempt σ (ask.service.Answer ι)
  | session tx op => tx.attempt op
  | start txs thread => txs.start thread
  | startWith txs thread options => txs.startWith thread options
  | current txs thread => txs.current thread
  | metrics txs => txs.metrics
  | resetMetrics txs => txs.resetMetrics

/-- What an operation comes to, from any report. -/
def outcome (ask : Ask β ι) (state : σ) : Outcome σ (ask.service.Answer ι × ErrorReport) :=
  match ask.provider? with
  | some provider =>
    let reply := ((ask.service.provide provider).run .success).run state
    ⟨ask.service.passOn reply.value, reply.state, ask.service.announcement ++ reply.events⟩
  | none =>
    ⟨(ask.service.nothing, .notUsable), state, [.withoutImplementation ask.service.operation]⟩

theorem run_call (ask : Ask β ι) (report : ErrorReport) (state : σ) :
    (ask.call.run report).run state = ask.outcome state := by
  cases ask with
  | session tx op =>
    obtain ⟨_ | session⟩ := tx <;> rfl
  | start txs thread | startWith txs thread options =>
    obtain ⟨_ | backend, config⟩ := txs
    · rfl
    · let txs : Transactions β := ⟨some backend, config⟩
      have htxs : txs.backend? = some backend := rfl
      exact Transactions.run_callStartWith htxs thread _ report state
  | current txs thread =>
    obtain ⟨_ | backend, config⟩ := txs
    · rfl
    · let txs : Transactions β := ⟨some backend, config⟩
      have htxs : txs.backend? = some backend := rfl
      exact Transactions.run_callCurrent htxs thread report state
  | metrics txs | resetMetrics txs =>
    obtain ⟨_ | backend, config⟩ := txs <;> rfl

theorem attempt_eq_raise (ask : Ask β ι) :
    (ask.attempt : Attempt σ _) = ask.call.raise := by
  cases ask <;> rfl

/-- The provider is asked once, with a success, and else the watch changes nothing. -/
theorem outcome_watched (ask : Ask β ι) (state : σ) (earlier : List (Consultation β ι)) :
    ask.outcome (⟨state, earlier⟩ : Watched β ι σ) =
      ⟨(ask.outcome state).value, ⟨(ask.outcome state).state, earlier ++ ask.consultations⟩,
        (ask.outcome state).events⟩ := by
  have hprovide (service : Service) (provider : service.Provider β ι) :
      ((service.provide provider).run .success).run (⟨state, earlier⟩ : Watched β ι σ) =
        let own := ((service.provide provider).run .success).run state
        ⟨own.value, ⟨own.state, earlier ++ [⟨service, provider, .success⟩]⟩, own.events⟩ := by
    cases service <;> rfl
  unfold outcome consultations
  cases ask.provider? with
  | none => simp
  | some provider => simp [hprovide]

/-- Both forms of an operation come to the same, whatever report is passed in: one
fills the report of its caller, the other raises what would be in it. -/
structure FormsAgree (ask : Ask β ι) (state : σ) (earlier : List (Consultation β ι))
    (filled : Outcome σ (ask.service.Answer ι × ErrorReport)) : Prop where
  filling : ∀ report, (ask.call.run report).run state = filled
  /-- The provider is asked once, with a success in the report. -/
  filling_watched : ∀ report, (ask.call.run report).run (⟨state, earlier⟩ : Watched β ι σ) =
    ⟨filled.value, ⟨filled.state, earlier ++ ask.consultations⟩, filled.events⟩
  provided : ∀ provider, ask.provider? = some provider →
    let reply := ((ask.service.provide provider).run .success).run state
    filled =
      ⟨ask.service.passOn reply.value, reply.state, ask.service.announcement ++ reply.events⟩
  unprovided : ask.provider? = none →
    filled =
      ⟨(ask.service.nothing, .notUsable), state, [.withoutImplementation ask.service.operation]⟩
  raising_ok : filled.value.2.isSuccess = true →
    (ask.attempt : Attempt σ _).run.run state = ⟨.ok filled.value.1, filled.state, filled.events⟩
  raising_error : filled.value.2.isSuccess = false →
    ∃ error, ErrorReport.ofError error = filled.value.2 ∧
      (ask.attempt : Attempt σ _).run.run state = ⟨.error error, filled.state, filled.events⟩
  raising_watched :
    ((ask.attempt : Attempt _ _).run.run (⟨state, earlier⟩ : Watched β ι σ)).state =
      ⟨filled.state, earlier ++ ask.consultations⟩

/-- Every operation of handles and facades has two forms that agree, over every
implementation and in every state of it. -/
theorem forms_agree (ask : Ask β ι) (state : σ) (earlier : List (Consultation β ι)) :
    ∃ filled, FormsAgree ask state earlier filled := by
  have hraised : (ask.attempt : Attempt σ _).run.run state =
      ⟨(ask.outcome state).value.2.raised.map fun () => (ask.outcome state).value.1,
        (ask.outcome state).state, (ask.outcome state).events⟩ := by
    rw [attempt_eq_raise, Call.run_raise, run_call]
  refine ⟨ask.outcome state, ?_, ?_, ?_, ?_, ?_, ?_, ?_⟩
  · intro report
    exact ask.run_call report state
  · intro report
    rw [run_call, outcome_watched]
  · intro provider hprovider
    simp only [outcome, hprovider]
  · intro hnone
    simp only [outcome, hnone]
  · intro hsuccess
    rw [hraised, ErrorReport.raised_eq_ok_iff.2 hsuccess]
    rfl
  · intro hfailure
    obtain ⟨error, herror⟩ := ErrorReport.exists_ofError_eq hfailure
    refine ⟨error, herror, ?_⟩
    rw [hraised, ErrorReport.raised_eq_error_iff.2 herror]
    rfl
  · rw [attempt_eq_raise, Call.run_raise, run_call, outcome_watched]

end Forms

end Ask

end TxClient
