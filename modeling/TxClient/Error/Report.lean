import TxClient.Error.Kind
import TxClient.Text.Quoted
import TxClient.Text.Record

namespace TxClient

/-- The message of every operation on a handle that refers to nothing. -/
def notUsableMessage : String :=
  "Instance is not usable (did you check for error?)."

/-- What an operation tells its caller beside its value. A caller may pass in the report of an
earlier call; a success may therefore carry a message that is left over. -/
structure ErrorReport where
  kind : ErrorKind
  message : String
  deriving DecidableEq, Repr

/-- A failure that is raised instead of a value. It is never a success. -/
structure TransactionError where
  kind : ErrorKind
  message : String
  isFailure : kind ≠ .success
  deriving DecidableEq, Repr

namespace ErrorReport

def success : ErrorReport :=
  ⟨.success, ""⟩

instance : Inhabited ErrorReport := ⟨success⟩

/-- The operation was called on something that refers to no implementation. -/
def notUsable : ErrorReport :=
  ⟨.generic, notUsableMessage⟩

/-- Only the kind decides; a message alone makes no failure. -/
def isSuccess (report : ErrorReport) : Bool :=
  report.kind == .success

def isFailure (report : ErrorReport) : Bool :=
  !report.isSuccess

/-- The failure that the report describes, raised; nothing for a success. -/
def raised (report : ErrorReport) : Except TransactionError Unit :=
  if h : report.kind = .success then .ok () else .error ⟨report.kind, report.message, h⟩

def ofError (error : TransactionError) : ErrorReport :=
  ⟨error.kind, error.message⟩

theorem raised_eq_ok_iff {report : ErrorReport} :
    report.raised = .ok () ↔ report.isSuccess = true := by
  unfold raised isSuccess
  by_cases hkind : report.kind = .success <;> simp [hkind]

/-- A failure is raised as the error that has its kind and its message. -/
theorem raised_eq_error_iff {report : ErrorReport} {error : TransactionError} :
    report.raised = .error error ↔ ofError error = report := by
  obtain ⟨kind, message⟩ := report
  obtain ⟨errorKind, errorMessage, hfailure⟩ := error
  unfold raised ofError
  by_cases hkind : kind = .success
  · subst hkind
    simp [hfailure]
  · simp [hkind, eq_comm]

theorem exists_ofError_eq {report : ErrorReport} (hfailure : report.isSuccess = false) :
    ∃ error, ofError error = report := by
  obtain ⟨kind, message⟩ := report
  have hkind : kind ≠ .success := beq_eq_false_iff_ne.1 hfailure
  exact ⟨⟨kind, message, hkind⟩, rfl⟩

/-- The report in words. A message left over in a success is not shown. -/
def display (report : ErrorReport) : String :=
  if report.isSuccess then "success" else report.kind.display ++ ": " ++ report.message

def debugText (report : ErrorReport) : String :=
  Text.record "ErrorReport"
    [("kind", report.kind.debugText), ("message", Text.quoted report.message)]

end ErrorReport

namespace TransactionError

/-- A failure of the given kind. One that claims to be a success is a generic failure. -/
def ofKind (kind : ErrorKind) (message : String) : TransactionError :=
  if h : kind = .success then ⟨.generic, message, by decide⟩ else ⟨kind, message, h⟩

instance : Inhabited TransactionError := ⟨ofKind .generic ""⟩

/-- The failed operation may succeed when its transaction is run again. -/
def isRetryable (error : TransactionError) : Bool :=
  error.kind.isRetryable

/-- The operation was called on something that refers to no implementation. -/
def isNotUsable (error : TransactionError) : Bool :=
  error.kind == .generic && error.message == notUsableMessage

def display (error : TransactionError) : String :=
  error.kind.display ++ ": " ++ error.message

def debugText (error : TransactionError) : String :=
  Text.record "TransactionError"
    [("kind", error.kind.debugText), ("message", Text.quoted error.message)]

end TransactionError

end TxClient
