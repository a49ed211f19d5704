import TxClient.Proofs.Text.Numeral
import TxClient.Proofs.Text.Reader
import TxClient.Proofs.Time.Calendar
import TxClient.Time.Rfc3339.Reader
import TxClient.Time.Rfc3339.Writer

/-!
Points in time as texts. Every point in time is written so that it is read back exactly:
years outside the four digits with their sign, a fraction of any number of digits, and
the sixtieth second of a minute.
-/

namespace TxClient.Rfc3339

open Text

variable {text rest : List Char}

section Heads

theorem isBlank_of_isDecimal {c : Char} (hc : isDecimal c = true) : isBlank c = false := by
  have hrange : 48 ≤ c.toNat ∧ c.toNat ≤ 57 := by
    simpa [isDecimal, Char.le_def, UInt32.le_iff_toNat_le] using hc
  simp [isBlank, inRanges, blankRanges]
  omega

theorem trimStart_cons {c : Char} (hc : isBlank c = false) :
    trimStart (c :: text) = c :: text := by
  simp [trimStart, hc]

theorem trimStart_digits (htext : AreDigits text) (hne : text ≠ []) :
    trimStart (text ++ rest) = text ++ rest := by
  obtain ⟨c, more, rfl⟩ := List.exists_cons_of_ne_nil hne
  exact trimStart_cons (isBlank_of_isDecimal (htext c List.mem_cons_self))

theorem run_skipBlanks (htrim : trimStart text = text) : skipBlanks.run text = .ok ((), text) := by
  change Except.ok ((), trimStart text) = _
  rw [htrim]

end Heads

section Digits

theorem takeWhile_take_digits {limit : Nat} (htext : AreDigits text) (hlimit : text.length ≤ limit)
    (hrest : EndsDigits rest) : ((text ++ rest).take limit).takeWhile isDigit = text := by
  rw [List.take_append, List.take_of_length_le hlimit]
  refine takeWhile_run htext ?_
  intro c hhead
  refine hrest c ?_
  rw [List.head?_take] at hhead
  split at hhead
  · cases hhead
  · exact hhead

/-- A row of digits that is not too long is read to its end. -/
theorem run_readDigits {limit : Nat} (htext : AreDigits text) (hne : text ≠ [])
    (hlimit : text.length ≤ limit) (hrest : EndsDigits rest) :
    (readDigits limit).run (text ++ rest) = .ok (numeralValue text, rest) := by
  have hdigits := takeWhile_take_digits htext hlimit hrest
  have hpresent : text.isEmpty = false := List.isEmpty_eq_false_iff.2 hne
  have hall : (text ++ rest).isEmpty = false :=
    List.isEmpty_eq_false_iff.2 (List.append_ne_nil_of_left_ne_nil hne rest)
  rw [readDigits, run_bind_of_ok run_get]
  simp only [hdigits, hpresent, hall, List.drop_left]
  rfl

theorem run_readField {least most n : Nat} (hlt : n < 100) (hleast : least ≤ n) (hmost : n ≤ most)
    (hrest : EndsDigits rest) :
    (readField least most).run (paddedNumeral 2 n ++ rest) = .ok (n, rest) := by
  have hdigits := areDigits_paddedNumeral 2 n
  have hne : paddedNumeral 2 n ≠ [] := by simp [paddedNumeral]
  have hlength : (paddedNumeral 2 n).length ≤ 2 := by rw [length_paddedNumeral]
  have hvalue : numeralValue (paddedNumeral 2 n) = n := numeralValue_paddedNumeral_of_lt hlt
  have hrange : ¬ (n < least ∨ most < n) := by omega
  rw [readField, run_bind_of_ok (run_skipBlanks (trimStart_digits hdigits hne)),
    run_bind_of_ok (run_readDigits hdigits hne hlength hrest), hvalue, if_neg hrange]
  rfl

theorem run_readMark {mark : Char} (hmark : isBlank mark = false) :
    (readMark mark).run (mark :: rest) = .ok ((), rest) := by
  rw [readMark, run_bind_of_ok (run_skipBlanks (trimStart_cons hmark))]
  simp
  rfl

end Digits

section Dates

theorem run_readSigned_minus (text : List Char) : readSigned.run ('-' :: text) =
    (readDigits text.length >>= fun value => pure (-(value : Int))).run text := rfl

theorem run_readSigned_plus (text : List Char) : readSigned.run ('+' :: text) =
    (readDigits text.length >>= fun value => pure (value : Int)).run text := rfl

theorem run_readSigned_plain {c : Char} (hc : isDecimal c = true) (text : List Char) :
    readSigned.run (c :: text) =
      (readDigits 4 >>= fun value => pure (value : Int)).run (c :: text) := by
  rw [readSigned, run_bind_of_ok run_get]
  split
  · next heq => cases heq; cases hc
  · next heq => cases heq; cases hc
  · rfl

/-- A year is read back from the form it is written in, with a sign or without one. -/
theorem run_readSigned (year : Int) (hrest : EndsDigits rest) :
    readSigned.run (writeYear year ++ rest) = .ok (year, rest) := by
  have hsigned (amount : Nat) : (readDigits (widenedNumeral 4 amount ++ rest).length).run
      (widenedNumeral 4 amount ++ rest) = .ok (amount, rest) := by
    have hlength : (widenedNumeral 4 amount).length ≤ (widenedNumeral 4 amount ++ rest).length := by
      simp
    rw [run_readDigits (areDigits_widenedNumeral 4 amount) (widenedNumeral_ne_nil 4 amount)
      hlength hrest, numeralValue_widenedNumeral]
  unfold writeYear
  by_cases hplain : 0 ≤ year ∧ year ≤ 9999
  · rw [if_pos hplain]
    have hdigits := areDigits_paddedNumeral 4 year.toNat
    have hne : paddedNumeral 4 year.toNat ≠ [] := by simp [paddedNumeral]
    have hlt : year.toNat < Number.tenTo 4 := by
      change year.toNat < 10000
      omega
    have hread := run_readDigits hdigits hne (length_paddedNumeral 4 year.toNat).le hrest
    rw [numeralValue_paddedNumeral_of_lt hlt] at hread
    obtain ⟨c, more, hmore⟩ := List.exists_cons_of_ne_nil hne
    have hc : isDecimal c = true := hdigits c (hmore ▸ List.mem_cons_self)
    rw [hmore] at hread ⊢
    rw [List.cons_append, run_readSigned_plain hc, ← List.cons_append, run_bind_of_ok hread]
    change Except.ok ((year.toNat : Int), rest) = _
    rw [Int.toNat_of_nonneg hplain.1]
  · rw [if_neg hplain, List.cons_append]
    by_cases hnegative : year < 0
    · rw [if_pos hnegative, run_readSigned_minus, run_bind_of_ok (hsigned year.natAbs)]
      change Except.ok (-(year.natAbs : Int), rest) = _
      rw [Int.ofNat_natAbs_of_nonpos (by omega), Int.neg_neg]
    · rw [if_neg hnegative, run_readSigned_plus, run_bind_of_ok (hsigned year.natAbs)]
      change Except.ok ((year.natAbs : Int), rest) = _
      rw [Int.natAbs_of_nonneg (by omega)]

theorem trimStart_writeYear (year : Int) (rest : List Char) :
    trimStart (writeYear year ++ rest) = writeYear year ++ rest := by
  unfold writeYear
  split
  · exact trimStart_digits (areDigits_paddedNumeral 4 _) (by simp [paddedNumeral])
  · split <;> exact trimStart_cons (by decide)

theorem run_readYear {year : Int} (hge : -262143 ≤ year) (hle : year ≤ 262142)
    (hrest : EndsDigits rest) : readYear.run (writeYear year ++ rest) = .ok (year, rest) := by
  have hrange : ¬ (year < -2147483648 ∨ 2147483648 ≤ year) := by omega
  rw [readYear, run_bind_of_ok (run_skipBlanks (trimStart_writeYear year rest)),
    run_bind_of_ok (run_readSigned year hrest), if_neg hrange]
  rfl

theorem run_readDate {date : Date} (hvalid : date.IsValid) (hge : -262143 ≤ date.year)
    (hle : date.year ≤ 262142) (hrest : EndsDigits rest) :
    readDate.run (writeDate date ++ rest) = .ok (date, rest) := by
  obtain ⟨hmonth, hmonth_le, hday, hday_le⟩ := hvalid
  have hlength := Date.monthLength_le date.year date.month
  have htext : writeDate date ++ rest = writeYear date.year ++
      '-' :: (paddedNumeral 2 date.month ++ '-' :: (paddedNumeral 2 date.day ++ rest)) := by
    simp [writeDate]
  rw [htext, readDate, run_bind_of_ok (run_readYear hge hle (endsDigits_cons rfl)),
    run_bind_of_ok (run_readMark rfl),
    run_bind_of_ok (run_readField (by omega) hmonth hmonth_le (endsDigits_cons rfl)),
    run_bind_of_ok (run_readMark rfl),
    run_bind_of_ok (run_readField (by omega) hday (by omega) hrest)]
  rfl

end Dates

section Times

theorem run_readFraction_cons (text : List Char) : readFraction.run ('.' :: text) =
    (do
      let value ← readDigits 9
      let after ← get
      set (after.dropWhile isDigit)
      return value * Number.tenTo (9 - (text.length - after.length)) : Reader Nat).run text := rfl

/-- A fraction is read back from as many digits as it was written with. -/
theorem run_readFraction_point {width value : Nat} (hpos : 0 < width) (hwidth : width ≤ 9)
    (hvalue : value < Number.tenTo width) (hrest : EndsDigits rest) :
    readFraction.run ('.' :: paddedNumeral width value ++ rest) =
      .ok (value * Number.tenTo (9 - width), rest) := by
  have hlength := length_paddedNumeral width value
  have hne : paddedNumeral width value ≠ [] := by
    intro hnil
    rw [hnil] at hlength
    exact absurd hlength.symm (by simpa using hpos.ne')
  have hread := run_readDigits (areDigits_paddedNumeral width value) hne
    (hlength.trans_le hwidth) hrest
  rw [numeralValue_paddedNumeral_of_lt hvalue] at hread
  have hdropped : ([] ++ rest).dropWhile isDigit = rest := dropWhile_run (by simp) hrest
  have hread_width : (paddedNumeral width value ++ rest).length - rest.length = width := by
    rw [List.length_append, hlength]
    omega
  rw [List.cons_append, run_readFraction_cons, run_bind_of_ok hread]
  change Except.ok (_, ([] ++ rest).dropWhile isDigit) = _
  rw [hdropped, hread_width]

theorem run_readFraction_nothing {c : Char} (hc : c ≠ '.') (text : List Char) :
    readFraction.run (c :: text) = .ok (0, c :: text) := by
  rw [readFraction, run_bind_of_ok run_get]
  split
  · next heq => cases heq; contradiction
  · rfl

theorem run_readFraction {nanos : Nat} (hlt : nanos < 1000000000) :
    readFraction.run (writeFraction nanos ++ ['Z']) = .ok (nanos, ['Z']) := by
  have hend : EndsDigits ['Z'] := endsDigits_cons rfl
  unfold writeFraction
  split
  · next hzero =>
    rw [hzero]
    exact run_readFraction_nothing (by decide) _
  · split
    · rw [run_readFraction_point (by decide) (by decide) (by change _ < 1000; omega) hend]
      change Except.ok (nanos / 1000000 * 1000000, ['Z']) = _
      rw [Nat.div_mul_cancel (Nat.dvd_of_mod_eq_zero ‹_›)]
    · split
      · rw [run_readFraction_point (by decide) (by decide) (by change _ < 1000000; omega) hend]
        change Except.ok (nanos / 1000 * 1000, ['Z']) = _
        rw [Nat.div_mul_cancel (Nat.dvd_of_mod_eq_zero ‹_›)]
      · rw [run_readFraction_point (by decide) (by decide) hlt hend]
        change Except.ok (nanos * 1, ['Z']) = _
        rw [Nat.mul_one]

theorem endsDigits_writeFraction (nanos : Nat) : EndsDigits (writeFraction nanos ++ ['Z']) := by
  unfold writeFraction
  split
  · exact endsDigits_cons rfl
  · split
    · exact endsDigits_cons rfl
    · split <;> exact endsDigits_cons rfl

/-- The sixtieth second of a minute is the leap second, and is read as one. -/
theorem run_readTime {secondOfDay nanos : Nat} (hsecond : secondOfDay < 86400)
    (hnanos : nanos < 2000000000) (hleap : 1000000000 ≤ nanos → secondOfDay % 60 = 59) :
    readTime.run (writeTime secondOfDay nanos ++ ['Z']) = .ok ((secondOfDay, nanos), ['Z']) := by
  generalize hshown : (if 1000000000 ≤ nanos then secondOfDay % 60 + 1 else secondOfDay % 60) =
    shown
  have hshown_le : shown ≤ 60 := by
    rw [← hshown]
    split <;> omega
  have htext : writeTime secondOfDay nanos ++ ['Z'] = paddedNumeral 2 (secondOfDay / 3600) ++
      ':' :: (paddedNumeral 2 (secondOfDay / 60 % 60) ++
        ':' :: (paddedNumeral 2 shown ++ (writeFraction (nanos % 1000000000) ++ ['Z']))) := by
    simp [writeTime, hshown]
  rw [htext, readTime,
    run_bind_of_ok (run_readField (by omega) (by omega) (by omega) (endsDigits_cons rfl)),
    run_bind_of_ok (run_readMark rfl),
    run_bind_of_ok (run_readField (by omega) (by omega) (by omega) (endsDigits_cons rfl)),
    run_bind_of_ok (run_readMark rfl),
    run_bind_of_ok (run_readField (by omega) (by omega) hshown_le (endsDigits_writeFraction _)),
    run_bind_of_ok (run_readFraction (by omega)),
    run_bind_of_ok (run_skipBlanks (trimStart_cons rfl))]
  change Except.ok (ite _ _ _, ['Z']) = _
  by_cases hlate : 1000000000 ≤ nanos
  · rw [if_pos hlate] at hshown
    rw [if_pos (by omega)]
    congr 3 <;> omega
  · rw [if_neg hlate] at hshown
    rw [if_neg (by omega)]
    congr 3 <;> omega

end Times

theorem run_readSeparator (text : List Char) :
    readSeparator.run ('T' :: text) = .ok ((), text) := rfl

theorem run_readParts {date : Date} (hvalid : date.IsValid) (hge : -262143 ≤ date.year)
    (hle : date.year ≤ 262142) {secondOfDay nanos : Nat} (hsecond : secondOfDay < 86400)
    (hnanos : nanos < 2000000000) (hleap : 1000000000 ≤ nanos → secondOfDay % 60 = 59) :
    readParts.run (writeDate date ++ 'T' :: writeTime secondOfDay nanos ++ ['Z']) =
      .ok ((date, (secondOfDay, nanos), 0), []) := by
  rw [List.append_assoc, List.cons_append, readParts,
    run_bind_of_ok (run_readDate hvalid hge hle (endsDigits_cons rfl)),
    run_bind_of_ok (run_readSeparator _),
    run_bind_of_ok (run_readTime hsecond hnanos hleap)]
  rfl

theorem ofParts?_eq (t : Timestamp) : Timestamp.ofParts? t.seconds t.nanos = some t :=
  dif_pos ⟨t.seconds_ge, t.seconds_le, t.nanos_lt, t.leap⟩

/-- A point in time is read back from what is written of it. -/
theorem read_write (t : Timestamp) : read (write t) = .ok t := by
  have hge := t.seconds_ge
  have hle := t.seconds_le
  generalize hdays : t.seconds / 86400 = days
  have hyear_ge : -262143 ≤ (Date.ofDays days).year := Date.year_ofDays_ge (by omega)
  have hyear_le : (Date.ofDays days).year ≤ 262142 := Date.year_ofDays_le (by omega)
  have hsecond : (t.seconds % 86400).toNat < 86400 := by omega
  have hleap : 1000000000 ≤ t.nanos → (t.seconds % 86400).toNat % 60 = 59 := by
    intro hlate
    have hlast := t.leap hlate
    omega
  have hparts := run_readParts (Date.isValid_ofDays days) hyear_ge hyear_le hsecond t.nanos_lt hleap
  have hseconds : 86400 * (Date.ofDays days).toDays + (t.seconds % 86400).toNat - 0 =
      t.seconds := by
    rw [Date.toDays_ofDays]
    omega
  have hinside : ¬ (¬ (Date.ofDays days).IsValid ∨ (Date.ofDays days).year < -262143 ∨
      262142 < (Date.ofDays days).year ∨ 86400 ≤ (0 : Int).natAbs) := by
    simp only [Date.isValid_ofDays, not_true_eq_false, false_or]
    omega
  rw [write, hdays, read, hparts]
  change resolve (Date.ofDays days) (t.seconds % 86400).toNat t.nanos 0 = .ok t
  rw [resolve, if_neg hinside, hseconds, ofParts?_eq]

end TxClient.Rfc3339
