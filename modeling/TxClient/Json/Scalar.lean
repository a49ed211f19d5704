import TxClient.Json.Number
import TxClient.Label

namespace TxClient.Json

/-- Fail because the value that comes next is of the wrong kind. A simple value is read, so that
the fault lies behind it; an array or an object is not. -/
def invalidType {α : Type} (expected : String) : Reader α := do
  let found ← match ← peek? with
    | some 'n' => do advance; readWord ['u', 'l', 'l']; pure .null
    | some 't' => do advance; readWord ['r', 'u', 'e']; pure (.boolean true)
    | some 'f' => do advance; readWord ['a', 'l', 's', 'e']; pure (.boolean false)
    | some '-' => do advance; pure (← readNumber false).found
    | some '"' => do pure (.text (← readText))
    | some '[' => pure .sequence
    | some '{' => pure .map
    | some c => if isDigit c then do pure (← readNumber true).found else failAhead .expectedValue
    | none => failAhead .expectedValue
  failHere (.invalidType found expected)

/-- A whole number below `2 ^ bits`. -/
def readUnsigned (bits : Nat) : Reader Nat := do
  let expected := "u" ++ toString bits
  let number ← match ← peekToken? with
    | none => failAhead .endInValue
    | some '-' => do advance; readNumber false
    | some c => if isDigit c then readNumber true else invalidType expected
  match number with
  | .natural value =>
    if value.toNat < Number.twoTo bits then return value.toNat
    else failHere (.invalidValue number.found expected)
  | .negative _ => failHere (.invalidValue number.found expected)
  | .decimal _ => failHere (.invalidType number.found expected)

/-- The value that carries no information. -/
def readUnit : Reader Unit := do
  match ← peekToken? with
  | none => failAhead .endInValue
  | some 'n' => do advance; readWord ['u', 'l', 'l']
  | some _ => invalidType "unit"

def readOptional {α : Type} (read : Reader α) : Reader (Option α) := do
  match ← peekToken? with
  | some 'n' => do advance; readWord ['u', 'l', 'l']; return none
  | _ => return some (← read)

/-- The label of a value, whose opening quote comes next. -/
def readLabel {α : Type} [Labelled α] : Reader α := do
  let text ← readText
  match Labelled.ofLabel? text with
  | some value => return value
  | none => failHere (.unknownVariant text (Labelled.labels α))

/-- A value of a labelled type: its label, or an object whose only member has the label as its key
and carries no information. -/
def readLabelled {α : Type} [Labelled α] : Reader α := do
  match ← peekToken? with
  | some '"' => readLabel
  | some '{' =>
    advance
    let value ← match ← peekToken? with
      | some '"' => readLabel
      | some '}' => failAhead .expectedValue
      | some _ => failAhead .keyMustBeText
      | none => failAhead .endInObject
    readColon
    readUnit
    match ← peekToken? with
    | some '}' => do advance; return value
    | some _ => failHere .expectedValue
    | none => failHere .endInObject
  | some _ => failAhead .expectedValue
  | none => failAhead .endInValue

def readTime : Reader Timestamp := do
  match ← peekToken? with
  | none => failAhead .endInValue
  | some '"' =>
    let text ← readText
    match Rfc3339.read text.toList with
    | .ok time => return time
    | .error fault => failHere (.time fault)
  | some _ => invalidType "an RFC 3339 formatted date and time string"

end TxClient.Json
