import TxClient.State

namespace TxClient

/-- What a handle can ask of its session. -/
inductive SessionOp where
  | commit
  | rollback
  /-- Give up what the session holds. -/
  | close
  /-- Make a later commit roll back. -/
  | setRollbackOnly
  | isRollbackOnly
  | state
  deriving DecidableEq, Repr

namespace SessionOp

/-- What the session answers, beside its report. -/
def Result : SessionOp → Type
  | isRollbackOnly => Bool
  | state => TxState
  | _ => Unit

/-- The answer of no session: nothing is rollback-only, and the state is unknown. -/
def noResult : (op : SessionOp) → op.Result
  | isRollbackOnly => false
  | state => TxState.unknown
  | commit | rollback | close | setRollbackOnly => ()

instance (op : SessionOp) : Inhabited op.Result := ⟨op.noResult⟩

def name : SessionOp → String
  | commit => "commit"
  | rollback => "rollback"
  | close => "close"
  | setRollbackOnly => "set_rollback_only"
  | isRollbackOnly => "is_rollback_only"
  | state => "state"

end SessionOp

/-- What can be asked through a handle or a facade. -/
inductive Operation where
  | txStart
  | getTx
  | metrics
  | resetMetrics
  | session (op : SessionOp)
  deriving DecidableEq, Repr

def Operation.name : Operation → String
  | txStart => "tx_start"
  | getTx => "get_tx"
  | metrics => "metrics"
  | resetMetrics => "reset_metrics"
  | session op => op.name

end TxClient
