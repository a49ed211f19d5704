import TxClient.Json.Skip
import TxClient.Number.Shortest

namespace TxClient.Json

/-- A number that has been read. Only whole numbers of 64 bits without a fraction and an exponent
are kept exactly. -/
inductive Number where
  | natural (value : UInt64)
  /-- The number below zero by the given amount, of at most `2 ^ 63`. -/
  | negative (amount : Nat)
  | decimal (value : Float)

/-- What a number is when it stands where no number of its kind should stand. -/
def Number.found : Number → Found
  | natural value => .integer value.toNat
  | negative amount => .integer (-amount)
  | decimal value => .decimal (String.ofList (Number.shortestText value))

/-- Append digits to a number as long as it stays below `limit`. Also gives the digits that are
left over. -/
def appendDigits (limit start : Nat) : List Char → Nat × List Char
  | [] => (start, [])
  | c :: rest =>
    if 10 * start + Text.digitValue c < limit then
      appendDigits limit (10 * start + Text.digitValue c) rest
    else (start, c :: rest)

/-- A power of ten with a floating point number nearest to it. -/
def powerOfTen (exponent : Nat) : Float :=
  Float.ofScientific 1 false exponent

/-- `x * 10 ^ exponent`, rounded after each of as few steps as the powers of ten up to `10 ^ 308`
allow. Nothing if the result is too large. -/
def scale (x : Float) (exponent : Int) : Option Float :=
  if exponent.natAbs ≤ 308 then
    if 0 ≤ exponent then
      let scaled := x * powerOfTen exponent.natAbs
      if scaled.isInf then none else some scaled
    else some (x / powerOfTen exponent.natAbs)
  else if x == 0 then some x
  else if 0 ≤ exponent then none
  else scale (x / powerOfTen 308) (exponent + 308)
termination_by exponent.natAbs

/-- The floating point number with a significand, of which only 64 bits are known, and an
exponent. -/
def readDecimal (positive : Bool) (significand : Nat) (exponent : Int) : Reader Number := do
  match scale (UInt64.ofNat significand).toFloat exponent with
  | none => failHere .numberOutOfRange
  | some x => return .decimal (if positive then x else -x)

/-- Digits, the first of which is due. -/
def readDigits : Reader (List Char) := do
  match ← peek? with
  | none => failHere .endInValue
  | some c => if isDigit c then readWhile isDigit else failAhead .invalidNumber

/-- The rest of a number from its exponent on, if it has one. An exponent of more than 31 bits
makes any number but zero too large, or else zero. -/
def readExponent (positive : Bool) (significand : Nat) (exponent : Int) : Reader Number := do
  match ← peek? with
  | some 'e' | some 'E' =>
    advance
    let sign ← peek?
    if sign = some '+' ∨ sign = some '-' then advance
    let before ← get
    let digits ← readDigits
    let (value, left) := appendDigits 2147483648 0 digits
    if left.isEmpty then
      readDecimal positive significand
        (if sign = some '-' then exponent - value else exponent + value)
    else if significand ≠ 0 ∧ sign ≠ some '-' then
      throw ⟨.numberOutOfRange, before.position.afterBytes (digits.length - left.length + 1) digits⟩
    else return .decimal (if positive then 0.0 else -0.0)
  | _ => readDecimal positive significand exponent

/-- The rest of a number from its fraction on, if it has one. Digits that the significand cannot
hold are ignored. -/
def readFraction (positive : Bool) (significand : Nat) (exponent : Int) : Reader Number := do
  match ← peek? with
  | some '.' =>
    advance
    let digits ← readDigits
    let (significand, left) := appendDigits UInt64.size significand digits
    readExponent positive significand (exponent - (digits.length - left.length : Nat))
  | _ => readExponent positive significand exponent

/-- The number with the given sign and digits and nothing behind them. -/
def Number.whole (positive : Bool) (significand : Nat) : Number :=
  if positive then .natural (UInt64.ofNat significand)
  else if 1 ≤ significand ∧ significand ≤ 9223372036854775808 then .negative significand
  else .decimal (-(UInt64.ofNat significand).toFloat)

/-- A number whose sign has been read. -/
def readNumber (positive : Bool) : Reader Number := do
  let digits ← match ← peek? with
    | some '0' =>
      advance
      match ← peek? with
      | some c => if isDigit c then failAhead .invalidNumber
      | none => pure ()
      pure ['0']
    | _ => readDigits
  let (significand, left) := appendDigits UInt64.size 0 digits
  let next ← peek?
  if next = some '.' ∨ next = some 'e' ∨ next = some 'E' ∨ ¬ left.isEmpty then
    readFraction positive significand left.length
  else return .whole positive significand

end TxClient.Json
