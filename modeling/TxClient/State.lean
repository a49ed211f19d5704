import TxClient.Label

namespace TxClient

/-- The state of a transaction as its session reports it. -/
inductive TxState where
  | active
  | preparing
  | prepared
  /-- Still running, but a commit will roll back. -/
  | markedRollbackOnly
  | committing
  | committed
  | rollingBack
  | rolledBack
  /-- What is reported when there is no session to ask. -/
  | unknown
  deriving DecidableEq, Repr

namespace TxState

instance : Inhabited TxState := ⟨unknown⟩

/-- The state in words, which is also its spelling in exchanged texts. -/
def display : TxState → String
  | active => "ACTIVE"
  | preparing => "PREPARING"
  | prepared => "PREPARED"
  | markedRollbackOnly => "MARKED_ROLLBACK_ONLY"
  | committing => "COMMITTING"
  | committed => "COMMITTED"
  | rollingBack => "ROLLING_BACK"
  | rolledBack => "ROLLED_BACK"
  | unknown => "UNKNOWN"

instance : Labelled TxState where
  values := [active, preparing, prepared, markedRollbackOnly, committing, committed, rollingBack,
    rolledBack, unknown]
  label := display

/-- The number the state travels as. -/
def ordinal : TxState → Int32
  | active => 0
  | preparing => 1
  | prepared => 2
  | markedRollbackOnly => 3
  | committing => 4
  | committed => 5
  | rollingBack => 6
  | rolledBack => 7
  | unknown => 8

def ofOrdinal? : Int32 → Option TxState
  | 0 => some active
  | 1 => some preparing
  | 2 => some prepared
  | 3 => some markedRollbackOnly
  | 4 => some committing
  | 5 => some committed
  | 6 => some rollingBack
  | 7 => some rolledBack
  | 8 => some unknown
  | _ => none

/-- The transaction can still be committed or rolled back. -/
def isActive : TxState → Bool
  | active | markedRollbackOnly => true
  | _ => false

def isTerminal : TxState → Bool
  | committed | rolledBack => true
  | _ => false

/-- The transaction can only end in a rollback, or has done so. -/
def isRollbackOnly : TxState → Bool
  | markedRollbackOnly | rollingBack | rolledBack => true
  | _ => false

def debugText : TxState → String
  | active => "Active"
  | preparing => "Preparing"
  | prepared => "Prepared"
  | markedRollbackOnly => "MarkedRollbackOnly"
  | committing => "Committing"
  | committed => "Committed"
  | rollingBack => "RollingBack"
  | rolledBack => "RolledBack"
  | unknown => "Unknown"

end TxState

end TxClient
