import TxClient.Call
import TxClient.Metrics.Basic

namespace TxClient

/-- References to transaction sessions whose state is kept in `σ`. A session reports a failure only
through the report it is given; a success leaves the report as it is. -/
class Sessions (ι σ : Type) where
  perform : ι → (op : SessionOp) → Call σ op.Result

/-- References to backends, which start the sessions and count the finished ones. -/
class Backends (β : Type) (ι : outParam Type) (σ : Type) where
  /-- Start a session for a thread; none if the report has been filled. -/
  start : β → ThreadId → TxOptions → Call σ (Option ι)
  current : β → ThreadId → Call σ (Option ι)
  metrics : β → Call σ Metrics
  resetMetrics : β → Call σ Unit

end TxClient
