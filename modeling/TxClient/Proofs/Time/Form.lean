import TxClient.Proofs.Text.Numeral
import TxClient.Proofs.Time.Calendar
import TxClient.Time.Rfc3339.Writer

/-!
The form in which points in time are written: the date and the time of the day in
universal time, a year of four digits or with its sign, a fraction of as many groups of
three digits as it needs, and the leap second as the sixtieth of its minute.
-/

namespace TxClient.Rfc3339

open Text

/-- A row of digits of the given width denotes the number. -/
structure Writes (width n : Nat) (digits : List Char) : Prop where
  areDigits : AreDigits digits
  length_eq : digits.length = width
  value_eq : numeralValue digits = n

/-- A year of the first ten thousand is written by four digits, any other by its sign and as
many digits as it needs, but four at least. -/
inductive SpellsYear : Int → List Char → Prop where
  | plain {year : Nat} {digits : List Char} (hyear : year ≤ 9999)
      (hwrites : Writes 4 year digits) : SpellsYear year digits
  | signed {year : Int} {digits : List Char} (hyear : year < 0 ∨ 9999 < year)
      (hdigits : AreDigits digits) (hvalue : numeralValue digits = year.natAbs)
      (hlength : 4 ≤ digits.length) (hlead : 4 < digits.length → digits.head? ≠ some '0') :
      SpellsYear year ((if year < 0 then '-' else '+') :: digits)

/-- A fraction of a second has no digits, or three, six or nine behind a point, and no group
of three too many. -/
inductive SpellsFraction : Nat → List Char → Prop where
  | none : SpellsFraction 0 []
  | millis {value : Nat} {digits : List Char} (hwrites : Writes 3 value digits)
      (hneeded : value % 1000 ≠ 0) : SpellsFraction (value * 1000000) ('.' :: digits)
  | micros {value : Nat} {digits : List Char} (hwrites : Writes 6 value digits)
      (hneeded : value % 1000 ≠ 0) : SpellsFraction (value * 1000) ('.' :: digits)
  | nanos {value : Nat} {digits : List Char} (hwrites : Writes 9 value digits)
      (hneeded : value % 1000 ≠ 0) : SpellsFraction value ('.' :: digits)

/-- What a point in time is written as. The date is the day of the calendar that the time
belongs to, and the clock shows the seconds of that day. -/
inductive SpellsTime : Timestamp → List Char → Prop where
  | mk {t : Timestamp} {date : Date} {hour minute second : Nat}
      {year month day hours minutes seconds fraction : List Char}
      (hvalid : date.IsValid) (hdays : date.toDays = t.seconds / 86400)
      (hhour : hour < 24) (hminute : minute < 60) (hsecond : second < 60)
      (hclock : t.seconds % 86400 = 3600 * hour + 60 * minute + second)
      (hyear : SpellsYear date.year year) (hmonth : Writes 2 date.month month)
      (hday : Writes 2 date.day day) (hhours : Writes 2 hour hours)
      (hminutes : Writes 2 minute minutes)
      (hseconds : Writes 2 (if t.isLeap then 60 else second) seconds)
      (hfraction : SpellsFraction (t.nanos % 1000000000) fraction) :
      SpellsTime t (year ++ '-' :: month ++ '-' :: day ++ 'T' :: hours ++ ':' :: minutes
        ++ ':' :: seconds ++ fraction ++ ['Z'])

theorem writes_paddedNumeral {width n : Nat} (hn : n < Number.tenTo width) :
    Writes width n (paddedNumeral width n) :=
  ⟨areDigits_paddedNumeral width n, length_paddedNumeral width n,
    numeralValue_paddedNumeral_of_lt hn⟩

theorem spellsYear_writeYear (year : Int) : SpellsYear year (writeYear year) := by
  unfold writeYear
  by_cases hplain : 0 ≤ year ∧ year ≤ 9999
  · have hyear : ((year.toNat : Nat) : Int) = year := Int.toNat_of_nonneg hplain.1
    have hlt : year.toNat < Number.tenTo 4 := by
      change year.toNat < 10000
      omega
    have hspells := SpellsYear.plain (by omega) (writes_paddedNumeral hlt)
    rw [hyear] at hspells
    rwa [if_pos hplain]
  · have hlength := length_widenedNumeral 4 year.natAbs
    rw [if_neg hplain]
    exact .signed (by omega) (areDigits_widenedNumeral 4 _) (numeralValue_widenedNumeral 4 _)
      (by omega) (head?_widenedNumeral (by omega))

theorem spellsFraction_writeFraction {nanos : Nat} (hnanos : nanos < 1000000000) :
    SpellsFraction nanos (writeFraction nanos) := by
  unfold writeFraction
  by_cases hzero : nanos = 0
  · rw [if_pos hzero, hzero]
    exact .none
  by_cases hmillis : nanos % 1000000 = 0
  · have hspells := SpellsFraction.millis (writes_paddedNumeral
      (show nanos / 1000000 < Number.tenTo 3 by change _ < 1000; omega)) (by omega)
    rw [Nat.div_mul_cancel (Nat.dvd_of_mod_eq_zero hmillis)] at hspells
    rwa [if_neg hzero, if_pos hmillis]
  by_cases hmicros : nanos % 1000 = 0
  · have hspells := SpellsFraction.micros (writes_paddedNumeral
      (show nanos / 1000 < Number.tenTo 6 by change _ < 1000000; omega)) (by omega)
    rw [Nat.div_mul_cancel (Nat.dvd_of_mod_eq_zero hmicros)] at hspells
    rwa [if_neg hzero, if_neg hmillis, if_pos hmicros]
  · rw [if_neg hzero, if_neg hmillis, if_neg hmicros]
    exact .nanos (writes_paddedNumeral hnanos) hmicros

/-- Every point in time is written in this form. -/
theorem spellsTime_write (t : Timestamp) : SpellsTime t (write t) := by
  generalize hdays : t.seconds / 86400 = days
  generalize hsecondOfDay : (t.seconds % 86400).toNat = secondOfDay
  have hclock : t.seconds % 86400 = secondOfDay := by omega
  obtain ⟨-, hmonth, -, hday⟩ := Date.isValid_ofDays days
  have hlength := Date.monthLength_le (Date.ofDays days).year (Date.ofDays days).month
  have hfield {n : Nat} (hn : n < 100) : Writes 2 n (paddedNumeral 2 n) := writes_paddedNumeral hn
  -- a leap second continues the last second of its minute
  have hshown : (if 1000000000 ≤ t.nanos then secondOfDay % 60 + 1 else secondOfDay % 60) =
      if t.isLeap then 60 else secondOfDay % 60 := by
    have hleap := t.leap
    simp only [Timestamp.isLeap, decide_eq_true_eq]
    split <;> omega
  have hseconds : Writes 2 (if t.isLeap then 60 else secondOfDay % 60) (paddedNumeral 2
      (if 1000000000 ≤ t.nanos then secondOfDay % 60 + 1 else secondOfDay % 60)) := by
    rw [hshown]
    refine hfield ?_
    split <;> omega
  have hspells := SpellsTime.mk (Date.isValid_ofDays days)
    ((Date.toDays_ofDays days).trans hdays.symm) (show secondOfDay / 3600 < 24 by omega)
    (show secondOfDay / 60 % 60 < 60 by omega) (show secondOfDay % 60 < 60 by omega) (by omega)
    (spellsYear_writeYear _) (hfield (by omega)) (hfield (by omega)) (hfield (by omega))
    (hfield (by omega)) hseconds (spellsFraction_writeFraction (Nat.mod_lt _ (by decide)))
  rw [write, hdays, hsecondOfDay]
  simpa only [writeDate, writeTime, List.append_assoc, List.cons_append] using hspells

example : String.ofList (write ⟨-1, 1500000000, by decide, by decide, by decide, by decide⟩) =
    "1969-12-31T23:59:60.500Z" := rfl

end TxClient.Rfc3339
