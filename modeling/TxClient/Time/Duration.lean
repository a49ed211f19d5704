import TxClient.Number.Power
import TxClient.Text.Numeral

namespace TxClient

/-- A span of time in nanoseconds: at most `2 ^ 64 - 1` whole seconds and a fraction. -/
structure Duration where
  nanos : Nat
  nanos_lt : nanos < UInt64.size * 1000000000
  deriving DecidableEq, Repr

namespace Duration

def zero : Duration :=
  ⟨0, by decide⟩

instance : Inhabited Duration := ⟨zero⟩

/-- Whole seconds and the nanoseconds beside them. Of the latter only what is below a second
counts. -/
def ofParts (seconds : UInt64) (fraction : Nat) : Duration where
  nanos := seconds.toNat * 1000000000 + fraction % 1000000000
  nanos_lt := by
    have hseconds := seconds.toNat_lt
    simp only [UInt64.size]
    omega

def ofMillis (millis : UInt64) : Duration where
  nanos := millis.toNat * 1000000
  nanos_lt := by
    have hmillis := millis.toNat_lt
    simp only [UInt64.size]
    omega

def seconds (d : Duration) : Nat :=
  d.nanos / 1000000000

def fraction (d : Duration) : Nat :=
  d.nanos % 1000000000

/-- The whole milliseconds; a rest is dropped. -/
def wholeMillis (d : Duration) : Nat :=
  d.nanos / 1000000

/-- A number of nanoseconds in a unit of `10 ^ places` nanoseconds: the whole units, then a point
and the exact rest without trailing zeros where there is a rest. -/
def inUnit (nanos places : Nat) (unit : String) : String :=
  let rest := Text.paddedNumeral places (nanos % Number.tenTo places)
  let shown := (rest.reverse.dropWhile (· == '0')).reverse
  let point := if shown.isEmpty then [] else ['.']
  String.ofList (Text.numeral (nanos / Number.tenTo places) ++ point ++ shown) ++ unit

/-- The span as a reader inspects it: exact, in the largest unit that is not larger than it. -/
def debugText (d : Duration) : String :=
  if 1000000000 ≤ d.nanos then inUnit d.nanos 9 "s"
  else if 1000000 ≤ d.nanos then inUnit d.nanos 6 "ms"
  else if 1000 ≤ d.nanos then inUnit d.nanos 3 "µs"
  else inUnit d.nanos 0 "ns"

end Duration

end TxClient
