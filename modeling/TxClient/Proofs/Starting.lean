import TxClient.Proofs.Forwarding
import TxClient.Proofs.Local.Start

/-!
Starting a transaction through a facade, over any backend. A start succeeds only with
a session in the handle it gives, whatever the backend answered. A backend that keeps
its promise makes the handle tell as much as the report, and the handle of a failed
start leads nowhere afterwards. Looking up the transaction of a thread is different: it
may succeed and give a handle that refers to nothing.
-/

namespace TxClient

variable {σ β ι : Type}

namespace Transaction

/-- Whatever is asked through the handle, in either form, the answer is that it cannot be
used. This is so over every implementation of sessions, one that watches its calls
included, so that none is called. -/
structure LeadsNowhere (tx : Transaction ι) : Prop where
  call : ∀ {τ : Type} [Sessions ι τ] (op : SessionOp) (report : ErrorReport) (state : τ),
    ((tx.call op).run report).run state =
      ⟨(op.noResult, .notUsable), state, [.withoutImplementation (.session op)]⟩
  attempt : ∀ {τ : Type} [Sessions ι τ] (op : SessionOp) (state : τ),
    ∃ error, ErrorReport.ofError error = .notUsable ∧
      (tx.attempt op).run.run state =
        ⟨.error error, state, [.withoutImplementation (.session op)]⟩

theorem leadsNowhere_of_none {tx : Transaction ι} (hnone : tx.session? = none) :
    tx.LeadsNowhere := by
  have hcall {τ : Type} [Sessions ι τ] (op : SessionOp) (report : ErrorReport) (state : τ) :
      ((tx.call op).run report).run state =
        ⟨(op.noResult, .notUsable), state, [.withoutImplementation (.session op)]⟩ := by
    simp only [Transaction.call, hnone, Call.run_forward_none]
    rfl
  refine ⟨hcall, ?_⟩
  intro τ _ op state
  have hfailure : ErrorReport.notUsable.isSuccess = false := rfl
  obtain ⟨error, herror⟩ := ErrorReport.exists_ofError_eq hfailure
  refine ⟨error, herror, ?_⟩
  rw [Transaction.attempt, Call.run_raise, hcall, ErrorReport.raised_eq_error_iff.2 herror]
  rfl

end Transaction

namespace Transactions

section Replies

variable [Backends β ι σ]

/-- What a backend answers when it is asked for a transaction. -/
def startReply (backend : β) (thread : ThreadId) (options : TxOptions) (state : σ) :
    Outcome σ (Option ι × ErrorReport) :=
  ((Backends.start backend thread options : Call σ (Option ι)).run .success).run state

/-- What a backend answers when it is asked for the transaction of a thread. -/
def currentReply (backend : β) (thread : ThreadId) (state : σ) :
    Outcome σ (Option ι × ErrorReport) :=
  ((Backends.current backend thread : Call σ (Option ι)).run .success).run state

/-- The promise of a backend: it gives no session when it reports a failure. -/
def KeepsStartContract (σ : Type) [Backends β ι σ] (backend : β) : Prop :=
  ∀ (thread : ThreadId) (options : TxOptions) (state : σ),
    (startReply backend thread options state).value.2.isSuccess = false →
      (startReply backend thread options state).value.1 = none

/-- Start a transaction, with options of its own or with the configured ones. -/
def callStarting (txs : Transactions β) (thread : ThreadId) :
    Option TxOptions → Call σ (Transaction ι)
  | none => txs.callStart thread
  | some options => txs.callStartWith thread options

/-- The same in the form that raises a failure. -/
def starting (txs : Transactions β) (thread : ThreadId) :
    Option TxOptions → Attempt σ (Transaction ι)
  | none => txs.start thread
  | some options => txs.startWith thread options

/-- The handle and the report of a start. The report that was passed in has no part in them. -/
def startAnswer (txs : Transactions β) (thread : ThreadId) (options? : Option TxOptions)
    (state : σ) : Transaction ι × ErrorReport :=
  match txs.backend? with
  | none => (.unusable, .notUsable)
  | some backend =>
    let reply := startReply backend thread (options?.getD txs.config.txOptions) state
    (⟨reply.value.1⟩, startReport reply.value.1 reply.value.2)

/-- The handle and the report when the transaction of a thread is looked up. -/
def currentAnswer (txs : Transactions β) (thread : ThreadId) (state : σ) :
    Transaction ι × ErrorReport :=
  match txs.backend? with
  | none => (.unusable, .notUsable)
  | some backend =>
    let reply := currentReply backend thread state
    (⟨reply.value.1⟩, reply.value.2)

variable {txs : Transactions β} {thread : ThreadId} {options? : Option TxOptions} {state : σ}

theorem callStarting_eq : (txs.callStarting thread options? : Call σ (Transaction ι)) =
    txs.callStartWith thread (options?.getD txs.config.txOptions) := by
  cases options? <;> rfl

theorem starting_eq : (txs.starting thread options? : Attempt σ (Transaction ι)) =
    (txs.callStarting thread options?).raise := by
  cases options? <;> rfl

theorem value_run_callStarting (report : ErrorReport) :
    (((txs.callStarting thread options? : Call σ (Transaction ι)).run report).run state).value =
      txs.startAnswer thread options? state := by
  rw [callStarting_eq, startAnswer]
  cases hbackend : txs.backend? with
  | none => simp only [callStartWith, hbackend, Call.run_forward_none]; rfl
  | some backend => rw [run_callStartWith hbackend]; rfl

theorem value_run_callCurrent (report : ErrorReport) :
    (((txs.callCurrent thread : Call σ (Transaction ι)).run report).run state).value =
      txs.currentAnswer thread state := by
  rw [currentAnswer]
  cases hbackend : txs.backend? with
  | none => simp only [callCurrent, hbackend, Call.run_forward_none]; rfl
  | some backend => rw [run_callCurrent hbackend]; rfl

theorem value_run_starting :
    ((txs.starting thread options? : Attempt σ (Transaction ι)).run.run state).value =
      (txs.startAnswer thread options? state).2.raised.map
        fun () => (txs.startAnswer thread options? state).1 := by
  rw [starting_eq, Call.run_raise, value_run_callStarting]

/-- A start without a session fails: with what was reported, if a failure was. -/
theorem startReport_none (report : ErrorReport) :
    startReport (none : Option ι) report =
      if report.isSuccess then ⟨.generic, "backend did not start a transaction"⟩ else report := by
  simp [startReport]

theorem startReport_some (session : ι) (report : ErrorReport) :
    startReport (some session) report = report := rfl

theorem isSuccess_startReport_none (report : ErrorReport) :
    (startReport (none : Option ι) report).isSuccess = false := by
  rw [startReport_none]
  cases hreport : report.isSuccess with
  | true => rfl
  | false => simpa using hreport

theorem exists_session_of_isSuccess
    (hsuccess : (txs.startAnswer thread options? state : Transaction ι × _).2.isSuccess = true) :
    ∃ backend session, txs.backend? = some backend ∧
      (startReply backend thread (options?.getD txs.config.txOptions) state).value.1 =
        some session ∧
      (txs.startAnswer thread options? state).1 = ⟨some session⟩ := by
  unfold startAnswer at hsuccess ⊢
  cases hbackend : txs.backend? with
  | none => simp only [hbackend] at hsuccess; cases hsuccess
  | some backend =>
    simp only [hbackend] at hsuccess ⊢
    cases hsession : (startReply backend thread (options?.getD txs.config.txOptions) state).value.1
    with
    | none => rw [hsession, isSuccess_startReport_none] at hsuccess; cases hsuccess
    | some session => exact ⟨backend, session, rfl, hsession, rfl⟩

/-- With a backend that keeps its promise the handle tells as much as the report. -/
theorem isUsable_startAnswer_iff
    (hkeeps : ∀ backend, txs.backend? = some backend → KeepsStartContract σ backend) :
    (txs.startAnswer thread options? state).1.isUsable = true ↔
      (txs.startAnswer thread options? state).2.isSuccess = true := by
  constructor
  · intro husable
    unfold startAnswer at husable ⊢
    cases hbackend : txs.backend? with
    | none => simp only [hbackend] at husable; cases husable
    | some backend =>
      simp only [hbackend] at husable ⊢
      obtain ⟨session, hsession⟩ : ∃ session, (startReply backend thread
          (options?.getD txs.config.txOptions) state).value.1 = some session :=
        Option.isSome_iff_exists.1 husable
      cases hreply : (startReply backend thread (options?.getD txs.config.txOptions)
          state).value.2.isSuccess with
      | true =>
        rw [hsession, startReport_some]
        exact hreply
      | false =>
        have hnone := hkeeps backend hbackend thread _ state hreply
        cases hsession.symm.trans hnone
  · intro hsuccess
    obtain ⟨backend, session, -, -, hanswer⟩ := exists_session_of_isSuccess hsuccess
    rw [hanswer]
    rfl

/-- Looking up succeeds without a transaction exactly where the backend finds no session
and reports no failure. -/
theorem currentAnswer_unusable_iff :
    ((txs.currentAnswer thread state).2.isSuccess = true ∧
        (txs.currentAnswer thread state).1.isUsable = false) ↔
      ∃ backend, txs.backend? = some backend ∧
        (currentReply backend thread state).value.1 = none ∧
        (currentReply backend thread state).value.2.isSuccess = true := by
  unfold currentAnswer
  cases hbackend : txs.backend? with
  | none =>
    constructor
    · rintro ⟨hsuccess, -⟩
      cases hsuccess
    · rintro ⟨backend, hsome, -⟩
      cases hsome
  | some backend =>
    simp [Transaction.isUsable, and_comm]

/-- What a start through a facade gives, in the form that fills a report and in the form that
raises a failure, and what a look-up gives. -/
structure StartsSoundly (txs : Transactions β) (thread : ThreadId) (options? : Option TxOptions)
    (state : σ) (filled : Transaction ι × ErrorReport)
    (raised : Except TransactionError (Transaction ι)) (found : Transaction ι × ErrorReport) :
    Prop where
  /-- A success comes with the very session that the backend gave. -/
  success : filled.2.isSuccess = true → ∃ backend session, txs.backend? = some backend ∧
    (startReply backend thread (options?.getD txs.config.txOptions) state).value.1 =
      some session ∧
    filled.1.isUsable = true ∧ filled.1.session? = some session
  /-- Without a session the start fails, with the failure of the backend if there is one. -/
  sessionless : ∀ backend, txs.backend? = some backend →
    let reply := startReply backend thread (options?.getD txs.config.txOptions) state
    reply.value.1 = none →
      filled.1.isUsable = false ∧ filled.2.isSuccess = false ∧
      filled.2 = if reply.value.2.isSuccess then
        ⟨.generic, "backend did not start a transaction"⟩ else reply.value.2
  backendless : txs.backend? = none → filled = (.unusable, .notUsable)
  usable_iff : (∀ backend, txs.backend? = some backend → KeepsStartContract σ backend) →
    (filled.1.isUsable = true ↔ filled.2.isSuccess = true)
  raised_iff : (∀ backend, txs.backend? = some backend → KeepsStartContract σ backend) →
    ((∃ tx, raised = .ok tx) ↔ filled.1.isUsable = true)
  raised_eq : ∀ tx, raised = .ok tx → tx = filled.1
  failed : (∀ backend, txs.backend? = some backend → KeepsStartContract σ backend) →
    filled.2.isSuccess = false → filled.1.LeadsNowhere
  found_eq : ∀ backend, txs.backend? = some backend →
    found = (⟨(currentReply backend thread state).value.1⟩,
      (currentReply backend thread state).value.2)
  found_unusable_iff : found.2.isSuccess = true ∧ found.1.isUsable = false ↔
    ∃ backend, txs.backend? = some backend ∧
      (currentReply backend thread state).value.1 = none ∧
      (currentReply backend thread state).value.2.isSuccess = true

/-- A start never succeeds without a transaction. -/
theorem starts_soundly (txs : Transactions β) (thread : ThreadId) (options? : Option TxOptions)
    (report : ErrorReport) (state : σ) :
    StartsSoundly txs thread options? state
      (((txs.callStarting thread options?).run report).run state).value
      ((txs.starting thread options?).run.run state).value
      (((txs.callCurrent thread).run report).run state).value := by
  rw [value_run_callStarting, value_run_callCurrent, value_run_starting]
  refine ⟨?_, ?_, ?_, isUsable_startAnswer_iff, ?_, ?_, ?_, ?_, currentAnswer_unusable_iff⟩
  · intro hsuccess
    obtain ⟨backend, session, hbackend, hsession, hanswer⟩ := exists_session_of_isSuccess hsuccess
    rw [hanswer]
    exact ⟨backend, session, hbackend, hsession, rfl, rfl⟩
  · intro backend hbackend reply hnone
    have hanswer : txs.startAnswer thread options? state =
        (⟨none⟩, startReport (none : Option ι) reply.value.2) := by
      rw [← hnone]
      simp only [startAnswer, hbackend, reply]
    rw [hanswer]
    exact ⟨rfl, isSuccess_startReport_none _, startReport_none _⟩
  · intro hbackend
    simp only [startAnswer, hbackend]
  · intro hkeeps
    rw [isUsable_startAnswer_iff hkeeps, ← ErrorReport.raised_eq_ok_iff]
    cases (txs.startAnswer thread options? state : Transaction ι × _).2.raised <;>
      simp [Except.map]
  · intro tx hraised
    cases hreport : (txs.startAnswer thread options? state : Transaction ι × _).2.raised with
    | ok done => rw [hreport] at hraised; exact (Except.ok.inj hraised).symm
    | error error => rw [hreport] at hraised; cases hraised
  · intro hkeeps hfailure
    apply Transaction.leadsNowhere_of_none
    cases hsession : (txs.startAnswer thread options? state : Transaction ι × _).1.session? with
    | none => rfl
    | some session =>
      have husable :
          (txs.startAnswer thread options? state : Transaction ι × _).1.isUsable = true := by
        rw [Transaction.isUsable, hsession]
        rfl
      rw [(isUsable_startAnswer_iff hkeeps).1 husable] at hfailure
      cases hfailure
  · intro backend hbackend
    simp only [currentAnswer, hbackend]

end Replies

end Transactions

/-- The local backends keep the promise, in every world. -/
theorem Local.keepsStartContract (id : BackendId) :
    Transactions.KeepsStartContract Local.World id := by
  intro thread options world hfailure
  cases hbackend : world.backend? id with
  | none =>
    rw [Transactions.startReply, Local.backends_start, Local.run_start_of_none hbackend]
  | some backend =>
    cases hbound : backend.bound.find? thread with
    | none =>
      rw [Transactions.startReply, Local.backends_start,
        Local.run_start_of_free hbackend hbound] at hfailure
      cases hfailure
    | some existing =>
      rw [Transactions.startReply, Local.backends_start,
        Local.run_start_of_bound hbackend hbound]

/-- The thread has a transaction, so that a second start fails, and its handle leads nowhere.
Another thread has none, which is no failure to find out; its start gives the session that the
backend gave, whatever was in the report. -/
theorem Transactions.starts_soundly_of_bound :
    let world := Local.World.initial.addBackend.enroll ⟨0⟩ ⟨7⟩ default
    let txs : Transactions BackendId := ⟨some ⟨0⟩, .standard⟩
    let second := (((txs.callStarting ⟨7⟩ none).run .success).run world).value
    let found := (((txs.callCurrent ⟨8⟩).run .success).run world).value
    let other := (((txs.callStarting ⟨8⟩ none).run ⟨.generic, "left over"⟩).run world).value
    (∀ backend, txs.backend? = some backend → KeepsStartContract Local.World backend) ∧
      second.2 = ⟨.illegalState, Local.alreadyStartedMessage ⟨0⟩⟩ ∧ second.1.LeadsNowhere ∧
      (found.2.isSuccess = true ∧ found.1.isUsable = false) ∧
      other.2.isSuccess = true ∧ other.1.isUsable = true ∧ other.1.session? = some ⟨1⟩ ∧
      (startReply (⟨0⟩ : BackendId) ⟨8⟩ txs.config.txOptions world).value.1 =
        some (⟨1⟩ : SessionId) := by
  intro world txs second found other
  have hkeeps (backend : BackendId) (_ : txs.backend? = some backend) :
      KeepsStartContract Local.World backend := Local.keepsStartContract backend
  have hsecond := starts_soundly txs ⟨7⟩ none .success world
  have hfound := starts_soundly txs ⟨8⟩ none .success world
  have hother := starts_soundly txs ⟨8⟩ none ⟨.generic, "left over"⟩ world
  obtain ⟨-, -, hreport⟩ := hsecond.sessionless ⟨0⟩ rfl rfl
  obtain ⟨backend, session, hbackend, hgiven, husable, hrefers⟩ := hother.success rfl
  obtain rfl : (⟨0⟩ : BackendId) = backend := Option.some.inj hbackend
  obtain rfl : (⟨1⟩ : SessionId) = session := Option.some.inj hgiven
  exact ⟨hkeeps, hreport, hsecond.failed hkeeps rfl,
    hfound.found_unusable_iff.2 ⟨⟨0⟩, rfl, rfl, rfl⟩, rfl, husable, hrefers, hgiven⟩

end TxClient
