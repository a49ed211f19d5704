import TxClient.Number.Power
import TxClient.Text.Numeral

namespace TxClient.Number

/-- A positive number `significand * 2 ^ exponent` among the binary floating point numbers. -/
structure Binary where
  significand : Nat
  exponent : Int
  /-- The next smaller floating point number is only half as far away as the next larger one. -/
  narrowBelow : Bool
  deriving DecidableEq, Repr

namespace Binary

def numerator (x : Binary) : Nat :=
  x.significand * twoTo x.exponent.toNat

def denominator (x : Binary) : Nat :=
  twoTo (-x.exponent).toNat

/-- The decimal number `digits * 10 ^ place` is read back as `x`: it lies within half the distance
to either neighbour, where an end of this interval belongs to the even significand. -/
def readsBack (x : Binary) (digits : Nat) (place : Int) : Bool :=
  let mine := x.numerator * tenTo (-place).toNat
  let other := digits * tenTo place.toNat * x.denominator
  let difference := if mine ≤ other then other - mine else mine - other
  let share := if other < mine && x.narrowBelow then 4 else 2
  let scaled := share * x.significand * difference
  if x.significand % 2 = 0 then scaled ≤ mine else scaled < mine

def firstPlace (x : Binary) : Int :=
  if x.denominator ≤ x.numerator then
    ((Text.numeral (x.numerator / x.denominator)).length : Int) - 1
  else
    -((Text.numeral ((x.denominator - 1) / x.numerator)).length : Int)

/-- The number of units of the given place in `x`, rounded down. -/
def unitsBelow (x : Binary) (place : Int) : Nat :=
  x.numerator * tenTo (-place).toNat / (x.denominator * tenTo place.toNat)

/-- The nearer of the two decimal numbers around `x` with a given last place, among those that are
read back as `x`. Of two at the same distance the even one is taken. -/
def nearest? (x : Binary) (place : Int) : Option Nat :=
  let below := x.unitsBelow place
  let mine := 2 * x.numerator * tenTo (-place).toNat
  let middle := (2 * below + 1) * tenTo place.toNat * x.denominator
  match x.readsBack below place, x.readsBack (below + 1) place with
  | false, false => none
  | true, false => some below
  | false, true => some (below + 1)
  | true, true =>
    if mine < middle || (mine == middle && below % 2 == 0) then some below else some (below + 1)

/-- The decimal number with the fewest digits that is read back as `x`: its digits and its last
place. Seventeen digits are always enough. -/
def shortest (x : Binary) : Nat × Int :=
  let places := (List.range 17).map fun (count : Nat) => x.firstPlace - (count : Int)
  (places.findSome? fun place => (x.nearest? place).map (·, place)).getD
    (x.unitsBelow (x.firstPlace - 16), x.firstPlace - 16)

/-- The parts of a positive floating point number of 64 bits. -/
def ofBits (bits : Nat) : Binary :=
  let fraction := bits % twoTo 52
  let power : Nat := bits / twoTo 52 % twoTo 11
  if power = 0 then ⟨fraction, -1074, false⟩
  else ⟨twoTo 52 + fraction, (power : Int) - 1075, fraction == 0 && 1 < power⟩

end Binary

/-- Decimal digits with a point, or with an exponent where the first digit lies outside the places
from -5 to 15. -/
def layout (digits : List Char) (firstPlace : Int) : List Char :=
  if 0 ≤ firstPlace ∧ firstPlace ≤ 15 then
    let whole := firstPlace.toNat + 1
    if digits.length ≤ whole then
      digits ++ List.replicate (whole - digits.length) '0' ++ ['.', '0']
    else digits.take whole ++ '.' :: digits.drop whole
  else if -5 ≤ firstPlace ∧ firstPlace < 0 then
    ['0', '.'] ++ List.replicate (firstPlace.natAbs - 1) '0' ++ digits
  else
    let fraction := if digits.length ≤ 1 then [] else '.' :: digits.drop 1
    let sign := if firstPlace < 0 then '-' else '+'
    digits.take 1 ++ fraction ++ 'e' :: sign :: Text.numeral firstPlace.natAbs

/-- A finite floating point number with the fewest digits that are read back as it. -/
def shortestText (x : Float) : List Char :=
  let bits := x.toBits.toNat
  let magnitude := bits % twoTo 63
  let sign := if twoTo 63 ≤ bits then ['-'] else []
  if magnitude = 0 then sign ++ ['0', '.', '0']
  else
    let (significand, place) := (Binary.ofBits magnitude).shortest
    let digits := Text.numeral significand
    let kept := (digits.reverse.dropWhile (· == '0')).reverse
    sign ++ layout kept (place + (digits.length : Int) - 1)

end TxClient.Number
