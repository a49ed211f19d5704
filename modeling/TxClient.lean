import TxClient.Config.File
import TxClient.Metrics.Json
import TxClient.Script.Run
import TxClient.Proofs.Local.Reaction
import TxClient.Proofs.Local.Request
import TxClient.Proofs.Correspondence
import TxClient.Proofs.Local.Program
import TxClient.Proofs.Local.History
import TxClient.Proofs.Local.Binding
import TxClient.Proofs.Local.Accounting
import TxClient.Proofs.Local.Within
import TxClient.Proofs.Local.Automaton
import TxClient.Proofs.Local.Finality
import TxClient.Proofs.Local.Atomicity
import TxClient.Proofs.Local.Lookup
import TxClient.Proofs.Trace
import TxClient.Proofs.Local.Log
import TxClient.Proofs.Local.Audit
import TxClient.Proofs.Local.Lane
import TxClient.Proofs.Local.Turns
import TxClient.Proofs.Local.Plays
import TxClient.Proofs.Local.Schedule
import TxClient.Proofs.Local.Separation
import TxClient.Proofs.Forms
import TxClient.Proofs.Starting
import TxClient.Proofs.Bracket
import TxClient.Proofs.Text.Numeral
import TxClient.Proofs.Names
import TxClient.Proofs.Time.Calendar
import TxClient.Proofs.Time.Rfc3339
import TxClient.Proofs.Json.Grammar
import TxClient.Proofs.Json.Reading
import TxClient.Proofs.Json.Text
import TxClient.Proofs.Config.Decoding
import TxClient.Proofs.Config.RoundTrip
import TxClient.Proofs.Config.File
import TxClient.Proofs.Metrics.Recording
import TxClient.Proofs.Metrics.RoundTrip
import TxClient.Proofs.Time.Form
import TxClient.Proofs.Announcement
import TxClient.Proofs.Error.Status
import TxClient.Proofs.Text.Utf8
