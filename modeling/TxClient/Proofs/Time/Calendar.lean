import Mathlib.Tactic.IntervalCases
import TxClient.Time.Date

/-!
Counting days. The day that lies a number of days after the start of 1970 exists in the
calendar, for any number of days, and lies that many days after the start of 1970.
-/

namespace TxClient.Date

/-- A day of a year that begins in March. -/
def inMarchYear (year : Int) (inYear : Nat) : Date :=
  let monthsSinceMarch := (5 * inYear + 2) / 153
  { year := if monthsSinceMarch < 10 then year else year + 1
    month := if monthsSinceMarch < 10 then monthsSinceMarch + 3 else monthsSinceMarch - 9
    day := inYear - daysBeforeMonth monthsSinceMarch + 1 }

/-- Days since March of year zero in cycles of four hundred years, centuries, cycles of four
years, and years. A year that begins in March has a leap day at its end or none. -/
structure Splits (sinceMarch cycle : Int) (century four one inYear : Nat) : Prop where
  days_eq : sinceMarch =
    146097 * cycle + (36524 * century + 1461 * four + 365 * one + inYear : Nat)
  century_le : century ≤ 3
  four_le : four ≤ 24
  one_le : one ≤ 3
  inYear_le : inYear ≤ 365
  leap : inYear = 365 → one = 3 ∧ (four = 24 → century = 3)

theorem exists_splits (days : Int) :
    ∃ cycle century four one inYear,
      Splits (days + epochOffset) cycle century four one inYear ∧
        ofDays days =
          inMarchYear (400 * cycle + (100 * century + 4 * four + one : Nat)) inYear := by
  refine ⟨_, _, _, _, _, ?_, rfl⟩
  generalize days + epochOffset = sinceMarch
  generalize hinCycle : (sinceMarch % 146097).toNat = inCycle
  have hcycle : sinceMarch = 146097 * (sinceMarch / 146097) + inCycle := by omega
  have hlt : inCycle < 146097 := by omega
  generalize hcentury : min (inCycle / 36524) 3 = century
  generalize hinCentury : inCycle - 36524 * century = inCentury
  have hinCentury_lt : inCentury < 36524 ∨ century = 3 ∧ inCentury = 36524 := by omega
  generalize hfour : inCentury / 1461 = four
  generalize hinFour : inCentury % 1461 = inFour
  generalize hone : min (inFour / 365) 3 = one
  exact ⟨by omega, by omega, by omega, by omega, by omega, by omega⟩

section MarchYear

variable {year : Int} {inYear : Nat}

/-- The days of the years before a year, counted from March of year zero. -/
def daysBeforeYear (year : Int) : Int :=
  365 * year + year / 4 - year / 100 + year / 400

theorem toDays_inMarchYear (hinYear : inYear ≤ 365) :
    (inMarchYear year inYear).toDays = daysBeforeYear year + inYear - epochOffset := by
  unfold inMarchYear
  generalize hmonths : (5 * inYear + 2) / 153 = months
  have hfirst : daysBeforeMonth months ≤ inYear := by
    unfold daysBeforeMonth
    omega
  by_cases hmonth : months < 10
  · have hlate : ¬ months + 3 ≤ 2 := by omega
    have hback : (months + 3 + 9) % 12 = months := by omega
    simp only [toDays, if_pos hmonth, if_neg hlate, hback, daysBeforeYear]
    omega
  · have hearly : months - 9 ≤ 2 := by omega
    have hback : (months - 9 + 9) % 12 = months := by omega
    simp only [toDays, if_neg hmonth, if_pos hearly, hback, daysBeforeYear]
    omega

theorem year_inMarchYear (year : Int) (inYear : Nat) : (inMarchYear year inYear).year =
    if (5 * inYear + 2) / 153 < 10 then year else year + 1 := rfl

theorem isLeapYear_iff : isLeapYear year = true ↔
    year % 4 = 0 ∧ (year % 100 ≠ 0 ∨ year % 400 = 0) := by
  simp [isLeapYear]

/-- The months from March to January are as long as the days between their beginnings. -/
theorem monthLength_eq (year : Int) {months : Nat} (hmonths : months < 11) :
    monthLength year (if months < 10 then months + 3 else months - 9) =
      daysBeforeMonth (months + 1) - daysBeforeMonth months := by
  interval_cases months <;> rfl

theorem monthLength_le (year : Int) (month : Nat) : monthLength year month ≤ 31 := by
  unfold monthLength
  split
  · split <;> decide
  all_goals decide

theorem le_monthLength_february (hleap : 29 ≤ inYear → isLeapYear year = true)
    (hinYear : inYear ≤ 29) : inYear ≤ monthLength year 2 := by
  unfold monthLength
  cases hyear : isLeapYear year with
  | true => exact hinYear
  | false =>
    have hshort : ¬ 29 ≤ inYear := fun hlong => by simp [hleap hlong] at hyear
    change inYear ≤ 28
    omega

/-- Every day of a year that begins in March exists, but the last only before a leap day. -/
theorem isValid_inMarchYear (hinYear : inYear ≤ 365)
    (hleap : inYear = 365 → isLeapYear (year + 1) = true) : (inMarchYear year inYear).IsValid := by
  simp only [inMarchYear, IsValid]
  generalize hmonths : (5 * inYear + 2) / 153 = months
  by_cases hfebruary : months = 11
  · subst hfebruary
    have hday : inYear - daysBeforeMonth 11 + 1 ≤ monthLength (year + 1) 2 := by
      apply le_monthLength_february
      · intro hlong
        exact hleap (by unfold daysBeforeMonth at hlong; omega)
      · unfold daysBeforeMonth
        omega
    exact ⟨by decide, by decide, Nat.le_add_left 1 _, hday⟩
  · have hlt : months < 11 := by omega
    have hbefore : inYear < daysBeforeMonth (months + 1) := by
      unfold daysBeforeMonth
      omega
    have hafter : daysBeforeMonth months ≤ inYear := by
      unfold daysBeforeMonth
      omega
    refine ⟨?_, ?_, Nat.le_add_left 1 _, ?_⟩
    · split <;> omega
    · split <;> omega
    · rw [monthLength_eq _ hlt]
      omega

end MarchYear

namespace Splits

variable {sinceMarch cycle : Int} {century four one inYear : Nat}

theorem daysBeforeYear_eq (h : Splits sinceMarch cycle century four one inYear) :
    daysBeforeYear (400 * cycle + (100 * century + 4 * four + one : Nat)) + inYear =
      sinceMarch := by
  have hdays := h.days_eq
  have hcentury := h.century_le
  have hfour := h.four_le
  have hone := h.one_le
  unfold daysBeforeYear
  omega

theorem isLeapYear_next (h : Splits sinceMarch cycle century four one inYear)
    (hlast : inYear = 365) :
    isLeapYear (400 * cycle + (100 * century + 4 * four + one : Nat) + 1) = true := by
  obtain ⟨hone, hcentury⟩ := h.leap hlast
  have hle := h.century_le
  have hfour := h.four_le
  rw [isLeapYear_iff]
  omega

end Splits

theorem toDays_ofDays (days : Int) : (ofDays days).toDays = days := by
  obtain ⟨cycle, century, four, one, inYear, hsplits, hdate⟩ := exists_splits days
  rw [hdate, toDays_inMarchYear hsplits.inYear_le, hsplits.daysBeforeYear_eq]
  omega

theorem isValid_ofDays (days : Int) : (ofDays days).IsValid := by
  obtain ⟨cycle, century, four, one, inYear, hsplits, hdate⟩ := exists_splits days
  rw [hdate]
  exact isValid_inMarchYear hsplits.inYear_le hsplits.isLeapYear_next

theorem year_ofDays_ge {days : Int} (hdays : -96465292 ≤ days) : -262143 ≤ (ofDays days).year := by
  obtain ⟨cycle, century, four, one, inYear, hsplits, hdate⟩ := exists_splits days
  have heq := hsplits.days_eq
  have hcentury := hsplits.century_le
  have hfour := hsplits.four_le
  have hone := hsplits.one_le
  have hinYear := hsplits.inYear_le
  rw [hdate, year_inMarchYear]
  unfold epochOffset at heq
  split <;> omega

theorem year_ofDays_le {days : Int} (hdays : days ≤ 95026236) : (ofDays days).year ≤ 262142 := by
  obtain ⟨cycle, century, four, one, inYear, hsplits, hdate⟩ := exists_splits days
  have heq := hsplits.days_eq
  have hcentury := hsplits.century_le
  have hfour := hsplits.four_le
  have hone := hsplits.one_le
  have hinYear := hsplits.inYear_le
  rw [hdate, year_inMarchYear]
  unfold epochOffset at heq
  split <;> omega

end TxClient.Date
