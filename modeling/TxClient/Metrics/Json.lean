import TxClient.Json.Record
import TxClient.Json.Writer
import TxClient.Metrics.Basic
import TxClient.Time.Rfc3339.Writer

namespace TxClient.Metrics

/-- How metrics are read. A time that is not given is absent; the counters must be given. -/
def shape : Json.Shape Metrics where
  name := "struct TransactionMetrics"
  initial := empty
  fields :=
    [.of "commit_time" (Json.readOptional Json.readTime) fun value metrics =>
        { metrics with commitTime := value },
      .of "rollback_time" (Json.readOptional Json.readTime) fun value metrics =>
        { metrics with rollbackTime := value },
      .of "commits" (Json.readUnsigned 32) fun value metrics =>
        { metrics with commits := .ofNat value },
      .of "rollbacks" (Json.readUnsigned 32) fun value metrics =>
        { metrics with rollbacks := .ofNat value }]
  required := ["commits", "rollbacks"]
  whole := true

def ofJson (text : String) : Except Json.Error Metrics :=
  Json.parse (Json.readRecord shape) text

def writeTime (time : Timestamp) : List Char :=
  Json.writePlain (Rfc3339.write time)

def toJson (metrics : Metrics) : String :=
  String.ofList (Json.writeObject
    [("commit_time", Json.writeOptional writeTime metrics.commitTime),
      ("rollback_time", Json.writeOptional writeTime metrics.rollbackTime),
      ("commits", Json.writeNumber metrics.commits.toNat),
      ("rollbacks", Json.writeNumber metrics.rollbacks.toNat)])

end TxClient.Metrics
