import TxClient.Config.Basic
import TxClient.Transaction

namespace TxClient

/-- The entry point: a reference to a backend, or to none, and the defaults of the transactions
that are started through it. -/
structure Transactions (β : Type) where
  backend? : Option β
  config : Config
  deriving DecidableEq, Inhabited, Repr

namespace Transactions

variable {β ι σ α : Type}

def unusable : Transactions β :=
  ⟨none, .standard⟩

def isUsable (txs : Transactions β) : Bool :=
  txs.backend?.isSome

section Calls

variable [Backends β ι σ]

/-- Start a transaction with the given options for a thread. A backend that gives no session and
reports nothing has failed all the same. -/
def callStartWith (txs : Transactions β) (thread : ThreadId) (options : TxOptions) :
    Call σ (Transaction ι) :=
  Call.forward .txStart txs.backend? fun backend => do
    Call.emit (.starting options.concurrency options.isolation
      (.ofNat options.timeout.wholeMillis) options.size)
    let session? ← Backends.start backend thread options
    if session?.isNone && (← get).isSuccess then
      Call.fail .generic "backend did not start a transaction"
    return ⟨session?⟩

def callStart (txs : Transactions β) (thread : ThreadId) : Call σ (Transaction ι) :=
  txs.callStartWith thread txs.config.txOptions

/-- The transaction bound to a thread; an unusable handle if there is none. -/
def callCurrent (txs : Transactions β) (thread : ThreadId) : Call σ (Transaction ι) :=
  Call.forward .getTx txs.backend? fun backend => do
    return ⟨← Backends.current backend thread⟩

def callMetrics (txs : Transactions β) : Call σ Metrics :=
  Call.forward .metrics txs.backend? fun backend => Backends.metrics backend

def callResetMetrics (txs : Transactions β) : Call σ Unit :=
  Call.forward .resetMetrics txs.backend? fun backend => Backends.resetMetrics backend

def startWith (txs : Transactions β) (thread : ThreadId) (options : TxOptions) :
    Attempt σ (Transaction ι) :=
  (txs.callStartWith thread options).raise

def start (txs : Transactions β) (thread : ThreadId) : Attempt σ (Transaction ι) :=
  (txs.callStart thread).raise

def current (txs : Transactions β) (thread : ThreadId) : Attempt σ (Transaction ι) :=
  (txs.callCurrent thread).raise

def metrics (txs : Transactions β) : Attempt σ Metrics :=
  txs.callMetrics.raise

def resetMetrics (txs : Transactions β) : Attempt σ Unit :=
  txs.callResetMetrics.raise

/-- Settle a transaction after its body: commit if the body succeeded, else roll back. The failure
of the body is kept, even when the rollback fails too. -/
def settle [Sessions ι σ] (tx : Transaction ι) : Except TransactionError α → Attempt σ α
  | .ok value => do
    tx.attempt .commit
    return value
  | .error bodyError => ExceptT.mk do
    match ← (tx.attempt .rollback).run with
    | .ok () => pure ()
    | .error rollbackError => Action.emit (.rollbackFailed rollbackError)
    return .error bodyError

/-- Run a body in a transaction of its own. The transaction is settled and then closed, whatever
happened before; the first failure is raised. If the transaction cannot be started, the body does
not run. -/
def transactWith [Sessions ι σ] (txs : Transactions β) (thread : ThreadId)
    (options : TxOptions) (body : Transaction ι → Attempt σ α) : Attempt σ α := do
  let tx ← txs.startWith thread options
  ExceptT.mk do
    let settled ← (settle tx (← (body tx).run)).run
    let closed ← (tx.attempt .close).run
    return do
      let value ← settled
      closed
      return value

def transact [Sessions ι σ] (txs : Transactions β) (thread : ThreadId)
    (body : Transaction ι → Attempt σ α) : Attempt σ α :=
  txs.transactWith thread txs.config.txOptions body

end Calls

def debugText (txs : Transactions β) : String :=
  Text.record "Transactions"
    [("usable", Text.truth txs.isUsable), ("config", txs.config.debugText)]

end Transactions

end TxClient
