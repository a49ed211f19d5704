import TxClient.Number.Power
import TxClient.Text.Blank
import TxClient.Text.Numeral
import TxClient.Time.Date
import TxClient.Time.Timestamp

namespace TxClient.Rfc3339

/-- Why a text denotes no point in time. -/
inductive Fault where
  /-- A part has a value that it cannot have. -/
  | outOfRange
  /-- The date and time are in order but cannot be expressed in universal time. -/
  | impossible
  | invalid
  | tooShort
  | tooLong
  deriving DecidableEq, Repr

def Fault.message : Fault → String
  | outOfRange => "input is out of range"
  | impossible => "no possible date and time matching input"
  | invalid => "input contains invalid characters"
  | tooShort => "premature end of input"
  | tooLong => "trailing input"

/-- A reader takes what it reads off the start of the text. -/
abbrev Reader := StateT (List Char) (Except Fault)

def skipBlanks : Reader Unit :=
  modify Text.trimStart

def isDigit (c : Char) : Bool :=
  '0' ≤ c && c ≤ '9'

/-- One to `limit` digits. Digits beyond the limit are left in the text. -/
def readDigits (limit : Nat) : Reader Nat := do
  let text ← get
  let digits := (text.take limit).takeWhile isDigit
  if text.isEmpty then throw .tooShort
  if digits.isEmpty then throw .invalid
  set (text.drop digits.length)
  return Text.numeralValue digits

/-- A number of at most two digits in a range, blanks before it allowed. -/
def readField (least most : Nat) : Reader Nat := do
  skipBlanks
  let value ← readDigits 2
  if value < least ∨ most < value then throw .outOfRange
  return value

/-- One given character, blanks before it allowed. -/
def readMark (mark : Char) : Reader Unit := do
  skipBlanks
  match ← get with
  | [] => throw .tooShort
  | c :: rest => if c = mark then set rest else throw .invalid

/-- At most four digits, or a sign and any number of digits. -/
def readSigned : Reader Int := do
  match ← get with
  | '-' :: rest =>
    set rest
    let value ← readDigits rest.length
    return -value
  | '+' :: rest =>
    set rest
    let value ← readDigits rest.length
    return value
  | _ =>
    let value ← readDigits 4
    return value

/-- A year, blanks before it allowed. -/
def readYear : Reader Int := do
  skipBlanks
  let year ← readSigned
  if year < -2147483648 ∨ 2147483648 ≤ year then throw .outOfRange
  return year

def readDate : Reader Date := do
  let year ← readYear
  readMark '-'
  let month ← readField 1 12
  readMark '-'
  let day ← readField 1 31
  return ⟨year, month, day⟩

/-- The date and the time are separated by a letter or by a blank. -/
def readSeparator : Reader Unit := do
  match ← get with
  | [] => throw .tooShort
  | c :: rest => if c = 't' ∨ c = 'T' ∨ c = ' ' then set rest else throw .invalid

/-- The nanoseconds after a decimal point, if there is one. Digits beyond the ninth are ignored. -/
def readFraction : Reader Nat := do
  match ← get with
  | '.' :: rest =>
    set rest
    let before := rest.length
    let value ← readDigits 9
    let after ← get
    set (after.dropWhile isDigit)
    return value * Number.tenTo (9 - (before - after.length))
  | _ => return 0

/-- The second of the day, and its nanoseconds. The sixtieth second of a minute is a leap second
and counts as a continuation of the one before. -/
def readTime : Reader (Nat × Nat) := do
  let hour ← readField 0 23
  readMark ':'
  let minute ← readField 0 59
  readMark ':'
  let second ← readField 0 60
  let fraction ← readFraction
  skipBlanks
  let start := 3600 * hour + 60 * minute
  return if second = 60 then (start + 59, 1000000000 + fraction) else (start + second, fraction)

/-- Exactly two digits of an offset. A rest of a single plain character is too short to hold
them. -/
def readTwoDigits (most : Nat) : Reader Nat := do
  match ← get with
  | [] => throw .tooShort
  | [c] => throw (if c.toNat < 128 then .tooShort else .invalid)
  | tens :: ones :: rest =>
    if !isDigit tens || !isDigit ones then throw .invalid
    let value := 10 * Text.digitValue tens + Text.digitValue ones
    if most < value then throw .outOfRange
    set rest
    return value

/-- The offset from universal time in seconds: a letter for none, or a sign, hours and minutes with
any colons and blanks between them. -/
def readOffset : Reader Int := do
  match ← get with
  | 'Z' :: rest | 'z' :: rest => set rest; return 0
  | sign :: rest =>
    if sign ≠ '+' ∧ sign ≠ '-' ∧ sign ≠ '−' then throw .invalid
    set rest
    let hours ← readTwoDigits 99
    modify (·.dropWhile fun c => c == ':' || Text.isBlank c)
    let minutes ← readTwoDigits 59
    let seconds : Int := 3600 * hours + 60 * minutes
    return if sign = '+' then seconds else -seconds
  | [] => throw .tooShort

def readZone : Reader Int := do
  match ← get with
  | u :: t :: c :: rest =>
    if (u = 'U' ∨ u = 'u') ∧ (t = 'T' ∨ t = 't') ∧ (c = 'C' ∨ c = 'c') then
      set rest
      return 0
    else readOffset
  | _ => readOffset

/-- The point in time of a date, a second of that day, its nanoseconds, and an offset of less than
a day. -/
def resolve (date : Date) (secondOfDay nanos : Nat) (offset : Int) : Except Fault Timestamp :=
  if ¬ date.IsValid ∨ date.year < -262143 ∨ 262142 < date.year ∨ 86400 ≤ offset.natAbs then
    .error .outOfRange
  else
    match Timestamp.ofParts? (86400 * date.toDays + secondOfDay - offset) nanos with
    | some t => .ok t
    | none => .error .impossible

/-- A date, the second of that day with its nanoseconds, and an offset. -/
def readParts : Reader (Date × (Nat × Nat) × Int) := do
  let date ← readDate
  readSeparator
  let time ← readTime
  let offset ← readZone
  return (date, time, offset)

def read (text : List Char) : Except Fault Timestamp :=
  match readParts.run text with
  | .error fault => .error fault
  | .ok ((date, (secondOfDay, nanos), offset), rest) =>
    if (Text.trimStart rest).isEmpty then resolve date secondOfDay nanos offset
    else .error .tooLong

end TxClient.Rfc3339
