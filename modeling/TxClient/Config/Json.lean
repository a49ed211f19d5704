import TxClient.Config.Basic
import TxClient.Config.Error
import TxClient.Json.Record
import TxClient.Json.Writer

namespace TxClient

namespace Config

/-- How a configuration is read. Members that are not given keep their defaults. -/
def shape : Json.Shape Config where
  name := "struct TransactionConfig"
  initial := standard
  fields :=
    [.of "default_concurrency" Json.readLabelled fun value config =>
        { config with defaultConcurrency := value },
      .of "default_isolation" Json.readLabelled fun value config =>
        { config with defaultIsolation := value },
      .of "default_timeout_ms" (Json.readUnsigned 64) fun value config =>
        { config with defaultTimeoutMs := .ofNat value },
      .of "default_tx_size" (Json.readUnsigned 32) fun value config =>
        { config with defaultTxSize := .ofNat value }]
  required := []
  whole := false

def ofJson (text : String) : Except ConfigError Config :=
  (Json.parse (Json.readRecord shape) text).mapError .json

def toJson (config : Config) : String :=
  String.ofList (Json.writeObject
    [("default_concurrency", Json.writeLabel config.defaultConcurrency),
      ("default_isolation", Json.writeLabel config.defaultIsolation),
      ("default_timeout_ms", Json.writeNumber config.defaultTimeoutMs.toNat),
      ("default_tx_size", Json.writeNumber config.defaultTxSize.toNat)])

end Config

end TxClient
