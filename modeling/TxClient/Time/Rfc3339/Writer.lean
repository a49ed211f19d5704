import TxClient.Text.Numeral
import TxClient.Time.Date
import TxClient.Time.Timestamp

namespace TxClient.Rfc3339

/-- A year of four digits is written without a sign; any other has its sign and at least four
digits. -/
def writeYear (year : Int) : List Char :=
  if 0 ≤ year ∧ year ≤ 9999 then Text.paddedNumeral 4 year.toNat
  else (if year < 0 then '-' else '+') :: Text.widenedNumeral 4 year.natAbs

def writeDate (date : Date) : List Char :=
  writeYear date.year ++ '-' :: Text.paddedNumeral 2 date.month
    ++ '-' :: Text.paddedNumeral 2 date.day

/-- The fraction of a second with as few groups of three digits as it needs. -/
def writeFraction (nanos : Nat) : List Char :=
  if nanos = 0 then []
  else if nanos % 1000000 = 0 then '.' :: Text.paddedNumeral 3 (nanos / 1000000)
  else if nanos % 1000 = 0 then '.' :: Text.paddedNumeral 6 (nanos / 1000)
  else '.' :: Text.paddedNumeral 9 nanos

/-- The time of a day; a leap second is the sixtieth of its minute. -/
def writeTime (secondOfDay nanos : Nat) : List Char :=
  let second := if 1000000000 ≤ nanos then secondOfDay % 60 + 1 else secondOfDay % 60
  Text.paddedNumeral 2 (secondOfDay / 3600) ++ ':' :: Text.paddedNumeral 2 (secondOfDay / 60 % 60)
    ++ ':' :: Text.paddedNumeral 2 second ++ writeFraction (nanos % 1000000000)

def write (t : Timestamp) : List Char :=
  writeDate (Date.ofDays (t.seconds / 86400)) ++ 'T' :: writeTime (t.seconds % 86400).toNat t.nanos
    ++ ['Z']

end TxClient.Rfc3339
