import TxClient.Json.Text

namespace TxClient.Json

def isDigit (c : Char) : Bool :=
  '0' ≤ c && c ≤ '9'

/-- Pass over one or more digits, the first of which is due. -/
def skipDigits : Reader Unit := do
  match ← peek? with
  | some c =>
    if isDigit c then modify (·.skipWhile isDigit) else failAhead .invalidNumber
  | none => failAhead .invalidNumber

/-- Pass over an exponent, if its letter comes next. -/
def skipExponent : Reader Unit := do
  match ← peek? with
  | some 'e' | some 'E' =>
    advance
    match ← peek? with
    | some '+' | some '-' => advance
    | _ => pure ()
    skipDigits
  | _ => return

/-- Pass over a fraction, if its point comes next. -/
def skipFraction : Reader Unit := do
  match ← peek? with
  | some '.' => do advance; skipDigits
  | _ => return

/-- Pass over a number without its sign. A zero in front of other digits is an error. -/
def skipNumber : Reader Unit := do
  match ← peek? with
  | some '0' =>
    advance
    match ← peek? with
    | some c => if isDigit c then failAhead .invalidNumber
    | none => pure ()
  | _ => skipDigits
  skipFraction
  skipExponent

/-- What encloses a value. -/
inductive Bracket where
  | array
  | object
  deriving DecidableEq, Repr

namespace Bracket

def close : Bracket → Char
  | array => ']'
  | object => '}'

/-- The text ends inside. -/
def endFault : Bracket → Fault
  | array => .endInArray
  | object => .endInObject

/-- Something other than a comma or the end follows a value. -/
def commaFault : Bracket → Fault
  | array => .expectedCommaOrBracket
  | object => .expectedCommaOrBrace

end Bracket

def skipKey : Reader Unit := do
  match ← peekToken? with
  | some '"' => do skipText; readColon
  | some _ => failAhead .keyMustBeText
  | none => failAhead .endInObject

mutual

/-- Pass over a value and over what follows it inside the brackets that are open, innermost first,
until the last of them is closed. Each step passes over a character, so the length of the text is
a sufficient bound. -/
def skipValue : (bound : Nat) → List Bracket → Reader Unit
  | 0, _ => failHere .endInValue
  | bound + 1, enclosing => do
    match ← peekToken? with
    | none => failAhead .endInValue
    | some 'n' => do advance; readWord ['u', 'l', 'l']; skipRest bound enclosing
    | some 't' => do advance; readWord ['r', 'u', 'e']; skipRest bound enclosing
    | some 'f' => do advance; readWord ['a', 'l', 's', 'e']; skipRest bound enclosing
    | some '-' => do advance; skipNumber; skipRest bound enclosing
    | some '"' => do skipText; skipRest bound enclosing
    | some '[' =>
      advance
      match ← peekToken? with
      | none => failAhead .endInArray
      | some ']' => do advance; skipRest bound enclosing
      | some _ => skipValue bound (.array :: enclosing)
    | some '{' =>
      advance
      match ← peekToken? with
      | none => failAhead .endInObject
      | some '}' => do advance; skipRest bound enclosing
      | some _ => do skipKey; skipValue bound (.object :: enclosing)
    | some c =>
      if isDigit c then
        skipNumber
        skipRest bound enclosing
      else failAhead .expectedValue

/-- Pass over what follows a value inside the brackets that are open. -/
def skipRest : (bound : Nat) → List Bracket → Reader Unit
  | _, [] => return
  | 0, _ :: _ => failHere .endInValue
  | bound + 1, bracket :: outer => do
    match ← peekToken? with
    | none => failAhead bracket.endFault
    | some c =>
      if c = ',' then
        advance
        if bracket = .object then skipKey
        skipValue bound (bracket :: outer)
      else if c = bracket.close then
        advance
        skipRest bound outer
      else failAhead bracket.commaFault

end

/-- Pass over one value of any kind, however deeply it is nested. -/
def skip : Reader Unit := do
  skipValue ((← get).rest.length + 1) []

end TxClient.Json
