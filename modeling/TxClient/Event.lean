import TxClient.Error.Report
import TxClient.Identity
import TxClient.Operation
import TxClient.Options

namespace TxClient

inductive Level where
  | trace
  | debug
  | warn
  deriving DecidableEq, Repr

def Level.name : Level → String
  | trace => "TRACE"
  | debug => "DEBUG"
  | warn => "WARN"

/-- Something worth telling an observer. -/
inductive Event where
  /-- An operation is passed on to what carries it out. -/
  | forwarding (op : Operation)
  /-- An operation has nothing that could carry it out. -/
  | withoutImplementation (op : Operation)
  /-- A backend is asked for a transaction. -/
  | starting (concurrency : Concurrency) (isolation : Isolation) (timeoutMs : UInt64)
      (size : UInt32)
  | started (tx : SessionId)
  | stateChange (tx : SessionId) (source target : TxState)
  | timedOut (tx : SessionId)
  /-- A body failed, and then its transaction could not be rolled back. -/
  | rollbackFailed (error : TransactionError)
  deriving DecidableEq, Repr

inductive FieldValue where
  | number (value : Nat)
  | text (value : String)
  deriving DecidableEq, Repr

namespace Event

def level : Event → Level
  | forwarding _ => .trace
  | withoutImplementation _ | starting .. | started _ | stateChange .. => .debug
  | timedOut _ | rollbackFailed _ => .warn

def message : Event → String
  | forwarding _ => "forwarding to implementation"
  | withoutImplementation _ => "operation on an instance without implementation"
  | starting .. => "starting transaction"
  | started _ => "transaction started"
  | stateChange .. => "transaction state change"
  | timedOut _ => "transaction timed out and was rolled back"
  | rollbackFailed _ => "rollback after failed transaction body failed"

def fields : Event → List (String × FieldValue)
  | forwarding op | withoutImplementation op => [("op", .text op.name)]
  | starting concurrency isolation timeoutMs size =>
    [("concurrency", .text concurrency.display), ("isolation", .text isolation.display),
      ("timeout_ms", .number timeoutMs.toNat), ("size", .number size.toNat)]
  | started tx | timedOut tx => [("tx_id", .text tx.display)]
  | stateChange tx source target =>
    [("tx_id", .text tx.display), ("from", .text source.display), ("to", .text target.display)]
  | rollbackFailed error => [("error", .text error.display)]

end Event

end TxClient
