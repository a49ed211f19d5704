namespace TxClient

/-- A day of the proleptic Gregorian calendar. Year zero is the year before year one. -/
structure Date where
  year : Int
  /-- From 1 for January. -/
  month : Nat
  /-- From 1. -/
  day : Nat
  deriving DecidableEq, Repr

namespace Date

def isLeapYear (year : Int) : Bool :=
  year % 4 == 0 && (year % 100 != 0 || year % 400 == 0)

def monthLength (year : Int) (month : Nat) : Nat :=
  match month with
  | 2 => if isLeapYear year then 29 else 28
  | 4 | 6 | 9 | 11 => 30
  | _ => 31

def IsValid (date : Date) : Prop :=
  1 ≤ date.month ∧ date.month ≤ 12 ∧ 1 ≤ date.day ∧
    date.day ≤ monthLength date.year date.month

instance (date : Date) : Decidable date.IsValid :=
  inferInstanceAs (Decidable (_ ∧ _))

/-- Days from the first of March of year zero to the start of 1970. -/
def epochOffset : Int :=
  719468

/-- Days from the first of March to the first of the month that lies the given number of months
later. -/
def daysBeforeMonth (monthsSinceMarch : Nat) : Nat :=
  (153 * monthsSinceMarch + 2) / 5

/-- Days since the start of 1970. Years are counted from March, so that a leap day is the last day
of its year. -/
def toDays (date : Date) : Int :=
  let year := if date.month ≤ 2 then date.year - 1 else date.year
  let monthsSinceMarch := (date.month + 9) % 12
  365 * year + year / 4 - year / 100 + year / 400 + daysBeforeMonth monthsSinceMarch
    + date.day - 1 - epochOffset

/-- The day that lies the given number of days after the start of 1970. The days since March of
year zero are split into cycles of four hundred years, centuries, cycles of four years, and years;
the last century of its cycle and the last year of its cycle are a day longer than the others. -/
def ofDays (days : Int) : Date :=
  let sinceMarch := days + epochOffset
  let cycle := sinceMarch / 146097
  let inCycle := (sinceMarch % 146097).toNat
  let century := min (inCycle / 36524) 3
  let inCentury := inCycle - 36524 * century
  let four := inCentury / 1461
  let inFour := inCentury % 1461
  let one := min (inFour / 365) 3
  let inYear := inFour - 365 * one
  let monthsSinceMarch := (5 * inYear + 2) / 153
  let year := 400 * cycle + (100 * century + 4 * four + one : Nat)
  { year := if monthsSinceMarch < 10 then year else year + 1
    month := if monthsSinceMarch < 10 then monthsSinceMarch + 3 else monthsSinceMarch - 9
    day := inYear - daysBeforeMonth monthsSinceMarch + 1 }

end Date

end TxClient
