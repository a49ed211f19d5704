import TxClient.Options

namespace TxClient

/-- What transactions are started with when the caller gives no options. -/
structure Config where
  defaultConcurrency : Concurrency
  defaultIsolation : Isolation
  /-- In milliseconds; zero means that transactions never time out. -/
  defaultTimeoutMs : UInt64
  /-- How many entries a transaction is expected to touch; zero if nobody knows. -/
  defaultTxSize : UInt32
  deriving DecidableEq, Inhabited, Repr

/-- One change to a configuration. -/
inductive Config.Change where
  | concurrency (value : Concurrency)
  | isolation (value : Isolation)
  | timeout (value : Duration)
  | txSize (value : UInt32)
  | timeoutMs (value : UInt64)
  deriving DecidableEq, Repr

namespace Config

def standard : Config :=
  default

/-- Set the timeout to the whole milliseconds of a span. A span of more milliseconds than can be
stored becomes the longest one. -/
def withTimeout (config : Config) (value : Duration) : Config :=
  let millis := value.wholeMillis
  { config with
    defaultTimeoutMs :=
      if millis < UInt64.size then .ofNat millis else .ofNat (UInt64.size - 1) }

def change (config : Config) : Change → Config
  | .concurrency value => { config with defaultConcurrency := value }
  | .isolation value => { config with defaultIsolation := value }
  | .timeout value => config.withTimeout value
  | .txSize value => { config with defaultTxSize := value }
  | .timeoutMs value => { config with defaultTimeoutMs := value }

/-- The options of a transaction that is started with these defaults. -/
def txOptions (config : Config) : TxOptions where
  concurrency := config.defaultConcurrency
  isolation := config.defaultIsolation
  timeout := .ofMillis config.defaultTimeoutMs
  size := config.defaultTxSize

def debugText (config : Config) : String :=
  Text.record "TransactionConfig"
    [("default_concurrency", config.defaultConcurrency.debugText),
      ("default_isolation", config.defaultIsolation.debugText),
      ("default_timeout_ms", toString config.defaultTimeoutMs),
      ("default_tx_size", toString config.defaultTxSize)]

end Config

end TxClient
