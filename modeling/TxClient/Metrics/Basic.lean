import TxClient.Time.Timestamp

namespace TxClient

/-- How a transaction came to its end. -/
inductive Ending where
  | commit
  | rollback
  deriving DecidableEq, Repr

/-- Counters of finished transactions and the times at which the last ones finished. -/
structure Metrics where
  commitTime : Option Timestamp
  rollbackTime : Option Timestamp
  commits : UInt32
  rollbacks : UInt32
  deriving DecidableEq, Repr

namespace Metrics

def empty : Metrics :=
  ⟨none, none, 0, 0⟩

instance : Inhabited Metrics := ⟨empty⟩

/-- A counter stops at its largest value. -/
def next (counter : UInt32) : UInt32 :=
  if counter.toNat + 1 < UInt32.size then counter + 1 else counter

/-- The metrics after one more transaction has finished at the given time. -/
def record (metrics : Metrics) (ending : Ending) (time : Timestamp) : Metrics :=
  match ending with
  | .commit => { metrics with commits := next metrics.commits, commitTime := some time }
  | .rollback => { metrics with rollbacks := next metrics.rollbacks, rollbackTime := some time }

def finished (metrics : Metrics) : Nat :=
  metrics.commits.toNat + metrics.rollbacks.toNat

end Metrics

end TxClient
