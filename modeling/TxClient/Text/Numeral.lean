namespace TxClient.Text

def digit (n : Nat) : Char :=
  Char.ofNat (48 + n)

def numeral (n : Nat) : List Char :=
  if n < 10 then [digit n] else numeral (n / 10) ++ [digit (n % 10)]

/-- The last `width` decimal digits of a number, with leading zeros. -/
def paddedNumeral : (width n : Nat) → List Char
  | 0, _ => []
  | width + 1, n => paddedNumeral width (n / 10) ++ [digit (n % 10)]

/-- The decimal digits of a number, with leading zeros up to the given width at least. -/
def widenedNumeral (width n : Nat) : List Char :=
  List.replicate (width - (numeral n).length) '0' ++ numeral n

def digitValue (c : Char) : Nat :=
  c.toNat - 48

/-- The number that a row of decimal digits denotes after a first part worth `start`. -/
def numeralValueFrom (start : Nat) (digits : List Char) : Nat :=
  digits.foldl (fun value c => 10 * value + digitValue c) start

def numeralValue (digits : List Char) : Nat :=
  numeralValueFrom 0 digits

/-- The digits of a number in base sixteen, lower case, without leading zeros. -/
def hexNumeral (n : Nat) : List Char :=
  let digit := if n % 16 < 10 then Char.ofNat (48 + n % 16) else Char.ofNat (87 + n % 16)
  if n < 16 then [digit] else hexNumeral (n / 16) ++ [digit]

/-- The number a digit in base sixteen stands for, in either case. -/
def hexValue? (c : Char) : Option Nat :=
  if '0' ≤ c ∧ c ≤ '9' then some (c.toNat - 48)
  else if 'a' ≤ c ∧ c ≤ 'f' then some (c.toNat - 87)
  else if 'A' ≤ c ∧ c ≤ 'F' then some (c.toNat - 55)
  else none

end TxClient.Text
