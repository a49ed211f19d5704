namespace TxClient

/-- A type of finitely many values, each with one fixed upper-case spelling in exchanged texts. -/
class Labelled (α : Type) where
  values : List α
  label : α → String

namespace Labelled

variable {α : Type} [Labelled α]

def ofLabel? (text : String) : Option α :=
  values.find? fun value => label value == text

def labels (α : Type) [Labelled α] : List String :=
  (values : List α).map label

end Labelled

/-- A text that names no value of what it should name. -/
structure UnknownName where
  subject : String
  text : String
  deriving DecidableEq, Repr

/-- The complaint repeats the text as it was given. -/
def UnknownName.message (unknown : UnknownName) : String :=
  "unknown " ++ unknown.subject ++ ": " ++ unknown.text

end TxClient
