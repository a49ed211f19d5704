import TxClient.Number.Power
import TxClient.Text.Numeral

/-!
Decimal numerals: what is written is a row of digits that denotes the number, whether
it is written as short as possible, in a fixed width, or with leading zeros.
-/

namespace TxClient.Text

/-- A character that is a decimal digit. -/
def isDecimal (c : Char) : Bool :=
  '0' ≤ c && c ≤ '9'

/-- Characters all of which are decimal digits. -/
def AreDigits (text : List Char) : Prop :=
  ∀ c ∈ text, isDecimal c = true

instance (text : List Char) : Decidable (AreDigits text) :=
  decidable_of_iff (text.all isDecimal = true) List.all_eq_true

theorem AreDigits.append {first second : List Char} (hfirst : AreDigits first)
    (hsecond : AreDigits second) : AreDigits (first ++ second) := by
  intro c hmem
  exact (List.mem_append.1 hmem).elim (hfirst c) (hsecond c)

theorem areDigits_singleton {c : Char} (hc : isDecimal c = true) : AreDigits [c] := by
  intro other hmem
  rwa [List.mem_singleton.1 hmem]

/-- The text does not go on with a decimal digit. -/
def EndsDigits (text : List Char) : Prop :=
  ∀ c, text.head? = some c → isDecimal c = false

theorem endsDigits_cons {c : Char} {text : List Char} (hc : isDecimal c = false) :
    EndsDigits (c :: text) := by
  intro other hhead
  rwa [← Option.some.inj hhead]

theorem isDecimal_digit : ∀ {n : Nat}, n < 10 → isDecimal (digit n) = true := by
  decide

theorem digitValue_digit : ∀ {n : Nat}, n < 10 → digitValue (digit n) = n := by
  decide

theorem digit_eq_zero_iff : ∀ {n : Nat}, n < 10 → (digit n = '0' ↔ n = 0) := by
  decide

section Values

theorem numeralValueFrom_append (start : Nat) (first second : List Char) :
    numeralValueFrom start (first ++ second) =
      numeralValueFrom (numeralValueFrom start first) second :=
  List.foldl_append

theorem numeralValueFrom_concat (start : Nat) (digits : List Char) (c : Char) :
    numeralValueFrom start (digits ++ [c]) =
      10 * numeralValueFrom start digits + digitValue c := by
  rw [numeralValueFrom_append]
  rfl

/-- More digits never make a number smaller. -/
theorem le_numeralValueFrom (start : Nat) (digits : List Char) :
    start ≤ numeralValueFrom start digits := by
  induction digits generalizing start with
  | nil => exact Nat.le_refl start
  | cons c rest ih =>
    have hrest := ih (10 * start + digitValue c)
    change start ≤ numeralValueFrom (10 * start + digitValue c) rest
    omega

theorem numeralValueFrom_zeros (count : Nat) (digits : List Char) :
    numeralValueFrom 0 (List.replicate count '0' ++ digits) = numeralValueFrom 0 digits := by
  induction count with
  | zero => rfl
  | succ count ih => exact ih

end Values

section Numeral

theorem numeral_of_lt {n : Nat} (hn : n < 10) : numeral n = [digit n] := by
  rw [numeral, if_pos hn]

theorem numeral_of_ge {n : Nat} (hn : 10 ≤ n) :
    numeral n = numeral (n / 10) ++ [digit (n % 10)] := by
  rw [numeral, if_neg (by omega)]

theorem numeral_ne_nil (n : Nat) : numeral n ≠ [] := by
  unfold numeral
  split <;> simp

theorem areDigits_numeral (n : Nat) : AreDigits (numeral n) := by
  induction n using Nat.strongRecOn with
  | ind n ih =>
    by_cases hn : n < 10
    · rw [numeral_of_lt hn]
      exact areDigits_singleton (isDecimal_digit hn)
    · rw [numeral_of_ge (by omega)]
      exact (ih (n / 10) (by omega)).append (areDigits_singleton (isDecimal_digit (by omega)))

theorem numeralValue_numeral (n : Nat) : numeralValue (numeral n) = n := by
  induction n using Nat.strongRecOn with
  | ind n ih =>
    by_cases hn : n < 10
    · rw [numeral_of_lt hn, numeralValue, numeralValueFrom, List.foldl_cons, List.foldl_nil,
        digitValue_digit hn]
      omega
    · have hshorter : numeralValueFrom 0 (numeral (n / 10)) = n / 10 := ih (n / 10) (by omega)
      rw [numeral_of_ge (by omega), numeralValue, numeralValueFrom_concat, hshorter,
        digitValue_digit (by omega)]
      omega

/-- Only the numeral of zero begins with a zero. -/
theorem head?_numeral_ne_zero {n : Nat} (hn : n ≠ 0) : (numeral n).head? ≠ some '0' := by
  induction n using Nat.strongRecOn with
  | ind n ih =>
    by_cases hsmall : n < 10
    · rw [numeral_of_lt hsmall]
      intro hzero
      exact hn ((digit_eq_zero_iff hsmall).1 (Option.some.inj hzero))
    · have hshorter := ih (n / 10) (by omega) (by omega)
      obtain ⟨c, more, hmore⟩ := List.exists_cons_of_ne_nil (numeral_ne_nil (n / 10))
      rw [numeral_of_ge (by omega), hmore]
      rwa [hmore] at hshorter

end Numeral

section Padded

theorem length_paddedNumeral (width n : Nat) : (paddedNumeral width n).length = width := by
  induction width generalizing n with
  | zero => rfl
  | succ width ih => rw [paddedNumeral, List.length_append, ih]; rfl

theorem areDigits_paddedNumeral (width n : Nat) : AreDigits (paddedNumeral width n) := by
  induction width generalizing n with
  | zero => intro c hmem; cases hmem
  | succ width ih =>
    exact (ih (n / 10)).append (areDigits_singleton (isDecimal_digit (by omega)))

theorem tenTo_succ (width : Nat) : Number.tenTo (width + 1) = Number.tenTo width * 10 := rfl

/-- A numeral of fixed width keeps the last digits. -/
theorem numeralValue_paddedNumeral (width n : Nat) :
    numeralValue (paddedNumeral width n) = n % Number.tenTo width := by
  induction width generalizing n with
  | zero => exact (Nat.mod_one n).symm
  | succ width ih =>
    have hshorter : numeralValueFrom 0 (paddedNumeral width (n / 10)) =
        n / 10 % Number.tenTo width := ih (n / 10)
    rw [paddedNumeral, numeralValue, numeralValueFrom_concat, hshorter,
      digitValue_digit (by omega), tenTo_succ, Nat.mul_comm _ 10, Nat.mod_mul]
    omega

theorem numeralValue_paddedNumeral_of_lt {width n : Nat} (hn : n < Number.tenTo width) :
    numeralValue (paddedNumeral width n) = n := by
  rw [numeralValue_paddedNumeral, Nat.mod_eq_of_lt hn]

end Padded

section Widened

theorem widenedNumeral_ne_nil (width n : Nat) : widenedNumeral width n ≠ [] :=
  List.append_ne_nil_of_right_ne_nil _ (numeral_ne_nil n)

theorem areDigits_widenedNumeral (width n : Nat) : AreDigits (widenedNumeral width n) := by
  refine AreDigits.append ?_ (areDigits_numeral n)
  intro c hmem
  rw [List.eq_of_mem_replicate hmem]
  rfl

theorem numeralValue_widenedNumeral (width n : Nat) :
    numeralValue (widenedNumeral width n) = n := by
  rw [widenedNumeral, numeralValue, numeralValueFrom_zeros]
  exact numeralValue_numeral n

theorem length_widenedNumeral (width n : Nat) :
    (widenedNumeral width n).length = max width (numeral n).length := by
  rw [widenedNumeral, List.length_append, List.length_replicate]
  omega

/-- Leading zeros only fill a numeral up to its width. -/
theorem head?_widenedNumeral {width n : Nat} (hn : n ≠ 0)
    (hwide : width < (widenedNumeral width n).length) :
    (widenedNumeral width n).head? ≠ some '0' := by
  rw [length_widenedNumeral] at hwide
  have hfull : width - (numeral n).length = 0 := by omega
  rw [widenedNumeral, hfull]
  exact head?_numeral_ne_zero hn

end Widened

end TxClient.Text
