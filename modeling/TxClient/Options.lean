import TxClient.Concurrency
import TxClient.Isolation
import TxClient.Text.Record
import TxClient.Time.Duration

namespace TxClient

/-- What a single transaction is started with. -/
structure TxOptions where
  concurrency : Concurrency
  isolation : Isolation
  /-- No time at all means that the transaction never times out. -/
  timeout : Duration
  /-- How many entries the transaction is expected to touch; zero if nobody knows. -/
  size : UInt32
  deriving DecidableEq, Inhabited, Repr

/-- One change to the options of a transaction that is about to be started. -/
inductive TxOptions.Change where
  /-- Start over with the given mode and level. -/
  | modes (concurrency : Concurrency) (isolation : Isolation)
  | timeout (value : Duration)
  | size (value : UInt32)
  deriving DecidableEq, Repr

namespace TxOptions

/-- Options with the given mode and level, without a timeout and of unknown size. -/
def ofModes (concurrency : Concurrency) (isolation : Isolation) : TxOptions :=
  ⟨concurrency, isolation, .zero, 0⟩

def change (options : TxOptions) : Change → TxOptions
  | .modes concurrency isolation => ofModes concurrency isolation
  | .timeout value => { options with timeout := value }
  | .size value => { options with size := value }

def hasTimeout (options : TxOptions) : Bool :=
  options.timeout != .zero

def debugText (options : TxOptions) : String :=
  Text.record "TxOptions"
    [("concurrency", options.concurrency.debugText), ("isolation", options.isolation.debugText),
      ("timeout", options.timeout.debugText), ("size", toString options.size)]

end TxOptions

end TxClient
