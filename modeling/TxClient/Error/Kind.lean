namespace TxClient

/-- What went wrong in an operation on a transaction, or that nothing did. -/
inductive ErrorKind where
  | success
  /-- A failure without a more precise classification. -/
  | generic
  | illegalArgument
  /-- The operation is not allowed in the current state. -/
  | illegalState
  | unsupported
  | timeout
  /-- The transaction outlived its own timeout. -/
  | txTimeout
  /-- The transaction was rolled back instead of committed. -/
  | txRollback
  /-- A concurrent change defeated an optimistic transaction. -/
  | txOptimistic
  /-- The outcome of the transaction had to be decided without all participants. -/
  | txHeuristic
  /-- A code that has no classification here. -/
  | unknown (code : Int32)
  deriving DecidableEq, Inhabited, Repr

namespace ErrorKind

/-- The kinds that have a code of their own. -/
def known : List ErrorKind :=
  [success, generic, illegalArgument, illegalState, unsupported, timeout, txTimeout, txRollback,
    txOptimistic, txHeuristic]

/-- The number a kind travels as. -/
def code : ErrorKind → Int32
  | success => 0
  | generic => 1
  | illegalArgument => 2
  | illegalState => 3
  | unsupported => 4
  | timeout => 5
  | txTimeout => 100
  | txRollback => 101
  | txOptimistic => 102
  | txHeuristic => 103
  | unknown code => code

/-- The kind a number stands for. A number without a classification is kept. -/
def ofCode : Int32 → ErrorKind
  | 0 => success
  | 1 => generic
  | 2 => illegalArgument
  | 3 => illegalState
  | 4 => unsupported
  | 5 => timeout
  | 100 => txTimeout
  | 101 => txRollback
  | 102 => txOptimistic
  | 103 => txHeuristic
  | other => unknown other

/-- The failure concerns the outcome of a transaction rather than a single call. -/
def isTransactional : ErrorKind → Bool
  | txTimeout | txRollback | txOptimistic | txHeuristic => true
  | _ => false

/-- The same operation may succeed when the transaction is run again. -/
def isRetryable : ErrorKind → Bool
  | txOptimistic | txTimeout | timeout => true
  | _ => false

def display : ErrorKind → String
  | success => "success"
  | generic => "generic error"
  | illegalArgument => "illegal argument"
  | illegalState => "illegal state"
  | unsupported => "unsupported operation"
  | timeout => "timeout"
  | txTimeout => "transaction timeout"
  | txRollback => "transaction rolled back"
  | txOptimistic => "optimistic transaction conflict"
  | txHeuristic => "heuristic transaction failure"
  | unknown code => "unknown error (" ++ toString code ++ ")"

def debugText : ErrorKind → String
  | success => "Success"
  | generic => "Generic"
  | illegalArgument => "IllegalArgument"
  | illegalState => "IllegalState"
  | unsupported => "Unsupported"
  | timeout => "Timeout"
  | txTimeout => "TxTimeout"
  | txRollback => "TxRollback"
  | txOptimistic => "TxOptimistic"
  | txHeuristic => "TxHeuristic"
  | unknown code => "Unknown(" ++ toString code ++ ")"

end ErrorKind

end TxClient
