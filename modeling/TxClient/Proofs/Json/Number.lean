import TxClient.Proofs.Json.Text

/-!
Reading numbers. Digits without a sign, a point and an exponent give exactly the number that
they denote if it has no more than 64 bits; nothing else gives a whole number that is not
negative. A number whose value does not matter is passed over.
-/

namespace TxClient.Json

open Text (run_bind_of_ok EndsDigits endsDigits_cons)

variable {rest digits : List Char} {position : Position}

/-- The text does not go on with a character that could still belong to a number. -/
def EndsNumber (text : List Char) : Prop :=
  ∀ c, text.head? = some c → isDigit c = false ∧ c ≠ '.' ∧ c ≠ 'e' ∧ c ≠ 'E'

theorem EndsNumber.endsDigits (hrest : EndsNumber rest) : EndsDigits rest :=
  fun c hhead => (hrest c hhead).1

theorem isDigit_of_areDigits (hdigits : Text.AreDigits digits) : ∀ c ∈ digits, isDigit c = true :=
  hdigits

section Skipping

theorem run_skipDigits (hdigits : Text.AreDigits digits) (hne : digits ≠ [])
    (hrest : EndsDigits rest) :
    skipDigits.run ⟨digits ++ rest, position⟩ = .ok ((), ⟨rest, position.past digits⟩) := by
  obtain ⟨c, more, rfl⟩ := List.exists_cons_of_ne_nil hne
  have hc : isDigit c = true := hdigits c (List.mem_cons_self ..)
  rw [List.cons_append, skipDigits, run_bind_of_ok run_peek_cons]
  simp only [hc, if_true]
  change Except.ok ((), Cursor.skipWhile isDigit ⟨(c :: more) ++ rest, position⟩) = _
  rw [skipWhile_run (isDigit_of_areDigits hdigits) hrest]

theorem run_skipExponent_none (hrest : EndsNumber rest) :
    skipExponent.run ⟨rest, position⟩ = .ok ((), ⟨rest, position⟩) := by
  cases rest with
  | nil => rfl
  | cons c rest =>
    obtain ⟨-, -, he, hE⟩ := hrest c rfl
    rw [skipExponent, run_bind_of_ok run_peek_cons]
    split
    · exact absurd (Option.some.inj ‹_›) he
    · exact absurd (Option.some.inj ‹_›) hE
    · rfl

/-- The letter of an exponent has been passed over. -/
theorem run_skipExponent_letter (exponent : Exponent) :
    skipExponent.run ⟨exponent.letter :: rest, position⟩ =
      (do
        match ← peek? with
        | some '+' | some '-' => advance
        | _ => pure ()
        skipDigits : Reader Unit).run ⟨rest, position.after exponent.letter⟩ := by
  rcases exponent.letter_eq with hletter | hletter <;> rw [hletter] <;> rfl

theorem run_skipExponent_some (exponent : Exponent) (hrest : EndsDigits rest) :
    skipExponent.run ⟨exponent.text ++ rest, position⟩ =
      .ok ((), ⟨rest, position.past exponent.text⟩) := by
  have hdigits (position : Position) :
      skipDigits.run ⟨exponent.digits ++ rest, position⟩ = _ :=
    run_skipDigits exponent.areDigits exponent.digits_ne_nil hrest
  rw [Exponent.text, List.cons_append, run_skipExponent_letter, List.append_assoc]
  rcases exponent.sign_eq with hsign | hsign | hsign
  · obtain ⟨c, more, hmore⟩ := List.exists_cons_of_ne_nil exponent.digits_ne_nil
    have hc : isDigit c = true := exponent.areDigits c (by simp [hmore])
    have hplus : c ≠ '+' := by rintro rfl; exact absurd hc (by decide)
    have hminus : c ≠ '-' := by rintro rfl; exact absurd hc (by decide)
    rw [hsign]
    simp only [List.nil_append]
    refine Eq.trans ?_ (hdigits (position.after exponent.letter))
    rw [hmore, List.cons_append, run_bind_of_ok run_peek_cons]
    split
    · exact absurd (Option.some.inj ‹_›) hplus
    · exact absurd (Option.some.inj ‹_›) hminus
    · rfl
  · rw [hsign]
    exact hdigits ((position.after exponent.letter).after '+')
  · rw [hsign]
    exact hdigits ((position.after exponent.letter).after '-')

theorem run_skipExponent (literal : Literal) (hrest : EndsNumber rest) :
    skipExponent.run ⟨literal.exponentText ++ rest, position⟩ =
      .ok ((), ⟨rest, position.past literal.exponentText⟩) := by
  unfold Literal.exponentText
  cases literal.exponent? with
  | none => exact run_skipExponent_none hrest
  | some exponent => exact run_skipExponent_some exponent hrest.endsDigits

theorem endsDigits_exponentText (literal : Literal) (hrest : EndsNumber rest) :
    EndsDigits (literal.exponentText ++ rest) := by
  unfold Literal.exponentText
  cases literal.exponent? with
  | none => exact hrest.endsDigits
  | some exponent =>
    refine endsDigits_cons ?_
    rcases exponent.letter_eq with hletter | hletter <;> rw [hletter] <;> rfl

theorem head?_exponentText_ne_point (literal : Literal) (hrest : EndsNumber rest) :
    (literal.exponentText ++ rest).head? ≠ some '.' := by
  unfold Literal.exponentText
  cases literal.exponent? with
  | none => exact fun hhead => (hrest '.' hhead).2.1 rfl
  | some exponent =>
    intro hhead
    have hletter : exponent.letter = '.' := Option.some.inj hhead
    rcases exponent.letter_eq with he | he <;> rw [he] at hletter <;>
      exact absurd hletter (by decide)

theorem run_skipFraction_none (hrest : rest.head? ≠ some '.') :
    skipFraction.run ⟨rest, position⟩ = .ok ((), ⟨rest, position⟩) := by
  cases rest with
  | nil => rfl
  | cons c rest =>
    rw [skipFraction, run_bind_of_ok run_peek_cons]
    split
    · exact absurd ‹_› hrest
    · rfl

theorem run_skipFraction (literal : Literal) (hpoint : rest.head? ≠ some '.')
    (hrest : EndsDigits rest) :
    skipFraction.run ⟨literal.fractionText ++ rest, position⟩ =
      .ok ((), ⟨rest, position.past literal.fractionText⟩) := by
  unfold Literal.fractionText
  by_cases hfraction : literal.fraction = []
  · rw [if_pos hfraction]
    exact run_skipFraction_none hpoint
  · rw [if_neg hfraction]
    exact run_skipDigits literal.areDigits_fraction hfraction hrest

theorem endsDigits_fractionText (literal : Literal) (hrest : EndsDigits rest) :
    EndsDigits (literal.fractionText ++ rest) := by
  unfold Literal.fractionText
  split
  · exact hrest
  · exact endsDigits_cons rfl

/-- The digits in front of the point. -/
theorem run_skipNumber_whole (literal : Literal) (hrest : EndsDigits rest) :
    skipNumber.run ⟨literal.whole ++ rest, position⟩ =
      (do skipFraction; skipExponent : Reader Unit).run ⟨rest, position.past literal.whole⟩ := by
  obtain ⟨c, more, hmore⟩ := List.exists_cons_of_ne_nil literal.whole_ne_nil
  by_cases hzero : c = '0'
  · have hwhole : literal.whole = ['0'] := literal.whole_of_zero (by rw [hmore, hzero]; rfl)
    rw [hwhole, skipNumber]
    cases rest with
    | nil => rfl
    | cons next rest =>
      have hnext : isDigit next = false := hrest next rfl
      refine (run_bind_of_ok run_peek_cons _).trans ?_
      refine (run_bind_of_ok run_advance _).trans ?_
      refine (run_bind_of_ok run_peek_cons _).trans ?_
      simp only [hnext]
      rfl
  · rw [skipNumber, hmore, List.cons_append, run_bind_of_ok run_peek_cons]
    split
    · exact absurd (Option.some.inj ‹_›) hzero
    · rw [← List.cons_append, ← hmore]
      exact run_bind_of_ok (run_skipDigits literal.areDigits_whole literal.whole_ne_nil hrest) _

/-- A number is passed over to its end. -/
theorem run_skipNumber (literal : Literal) (hrest : EndsNumber rest) :
    skipNumber.run ⟨literal.unsignedText ++ rest, position⟩ =
      .ok ((), ⟨rest, position.past literal.unsignedText⟩) := by
  have hexponent := endsDigits_exponentText literal hrest
  have hpoint := head?_exponentText_ne_point literal hrest
  have hfraction := endsDigits_fractionText literal hexponent
  rw [Literal.unsignedText, List.append_assoc, List.append_assoc,
    run_skipNumber_whole literal hfraction,
    run_bind_of_ok (run_skipFraction literal hpoint hexponent), run_skipExponent literal hrest]
  simp

end Skipping

section Reading

theorem appendDigits_of_lt {limit start : Nat} (hlt : Text.numeralValueFrom start digits < limit) :
    appendDigits limit start digits = (Text.numeralValueFrom start digits, []) := by
  induction digits generalizing start with
  | nil => rfl
  | cons c digits ih =>
    have hnext := Text.le_numeralValueFrom (10 * start + Text.digitValue c) digits
    rw [appendDigits, if_pos (Nat.lt_of_le_of_lt hnext hlt)]
    exact ih hlt

theorem appendDigits_of_ge {limit start : Nat} (hstart : start < limit)
    (hge : limit ≤ Text.numeralValueFrom start digits) :
    (appendDigits limit start digits).2 ≠ [] := by
  induction digits generalizing start with
  | nil => exact absurd hstart (Nat.not_lt_of_le hge)
  | cons c digits ih =>
    rw [appendDigits]
    split
    · exact ih ‹_› hge
    · exact List.cons_ne_nil c digits

theorem run_readDigits (hdigits : Text.AreDigits digits) (hne : digits ≠ [])
    (hrest : EndsDigits rest) :
    readDigits.run ⟨digits ++ rest, position⟩ = .ok (digits, ⟨rest, position.past digits⟩) := by
  obtain ⟨c, more, rfl⟩ := List.exists_cons_of_ne_nil hne
  have hc : isDigit c = true := hdigits c (List.mem_cons_self ..)
  rw [List.cons_append, readDigits, run_bind_of_ok run_peek_cons]
  simp only [hc, if_true]
  exact run_readWhile (isDigit_of_areDigits hdigits) hrest

/-- All results of a reader have a property, wherever it reads. -/
def Yields {α : Type} (reader : Reader α) (p : α → Prop) : Prop :=
  ∀ cursor value after, reader.run cursor = .ok (value, after) → p value

theorem yields_pure {α : Type} {p : α → Prop} {value : α} (hvalue : p value) :
    Yields (pure value : Reader α) p := by
  intro cursor other after hrun
  cases hrun
  exact hvalue

theorem yields_throw {α : Type} {p : α → Prop} (error : Error) :
    Yields (throw error : Reader α) p := by
  intro cursor other after hrun
  cases hrun

theorem yields_bind {α β : Type} {reader : Reader α} {next : α → Reader β} {p : β → Prop}
    (hnext : ∀ value, Yields (next value) p) : Yields (reader >>= next) p := by
  intro cursor value after hrun
  cases hreader : reader.run cursor with
  | error error =>
    rw [Text.run_bind_of_error hreader] at hrun
    cases hrun
  | ok outcome =>
    rw [run_bind_of_ok hreader] at hrun
    exact hnext outcome.1 outcome.2 value after hrun

/-- The number is not known to be a whole number. -/
def Number.IsDecimal (number : Number) : Prop :=
  ∃ value, number = .decimal value

theorem readDecimal_yields (positive : Bool) (significand : Nat) (exponent : Int) :
    Yields (readDecimal positive significand exponent) Number.IsDecimal := by
  unfold readDecimal
  split
  · exact yields_bind fun _ => yields_throw _
  · exact yields_pure ⟨_, rfl⟩

/-- The end of a number whose exponent has been read up to its digits. -/
theorem exponentDigits_yields (positive : Bool) (significand : Nat) (exponent : Int)
    (sign : Option Char) :
    Yields (do
      let before ← get
      let digits ← readDigits
      let (value, left) := appendDigits 2147483648 0 digits
      if left.isEmpty then
        readDecimal positive significand
          (if sign = some '-' then exponent - value else exponent + value)
      else if significand ≠ 0 ∧ sign ≠ some '-' then
        throw ⟨.numberOutOfRange,
          before.position.afterBytes (digits.length - left.length + 1) digits⟩
      else return .decimal (if positive then 0.0 else -0.0) : Reader Number) Number.IsDecimal := by
  refine yields_bind fun before => yields_bind fun digits => ?_
  dsimp only
  split
  · exact readDecimal_yields _ _ _
  · split
    · exact yields_throw _
    · exact yields_pure ⟨_, rfl⟩

theorem readExponent_yields (positive : Bool) (significand : Nat) (exponent : Int) :
    Yields (readExponent positive significand exponent) Number.IsDecimal := by
  unfold readExponent
  refine yields_bind fun next => ?_
  split
  case h_3 => exact readDecimal_yields _ _ _
  all_goals
    refine yields_bind fun _ => yields_bind fun sign => ?_
    dsimp only
    split
    · exact yields_bind fun _ => exponentDigits_yields positive significand exponent sign
    · exact exponentDigits_yields positive significand exponent sign

theorem readFraction_yields (positive : Bool) (significand : Nat) (exponent : Int) :
    Yields (readFraction positive significand exponent) Number.IsDecimal := by
  unfold readFraction
  refine yields_bind fun next => ?_
  split
  · refine yields_bind fun _ => yields_bind fun digits => ?_
    exact readExponent_yields _ _ _
  · exact readExponent_yields _ _ _

/-- What a number is whose digits in front of the point have been read. -/
def readNumberFrom (positive : Bool) (digits : List Char) : Reader Number := do
  let (significand, left) := appendDigits UInt64.size 0 digits
  let next ← peek?
  if next = some '.' ∨ next = some 'e' ∨ next = some 'E' ∨ ¬ left.isEmpty then
    readFraction positive significand left.length
  else return .whole positive significand

theorem run_readNumber_whole (literal : Literal) (positive : Bool) (hrest : EndsDigits rest) :
    (readNumber positive).run ⟨literal.whole ++ rest, position⟩ =
      (readNumberFrom positive literal.whole).run ⟨rest, position.past literal.whole⟩ := by
  obtain ⟨c, more, hmore⟩ := List.exists_cons_of_ne_nil literal.whole_ne_nil
  by_cases hzero : c = '0'
  · have hwhole : literal.whole = ['0'] := literal.whole_of_zero (by rw [hmore, hzero]; rfl)
    rw [hwhole, readNumber]
    cases rest with
    | nil => rfl
    | cons next rest =>
      have hnext : isDigit next = false := hrest next rfl
      refine (run_bind_of_ok run_peek_cons _).trans ?_
      refine (run_bind_of_ok run_advance _).trans ?_
      refine (run_bind_of_ok run_peek_cons _).trans ?_
      simp only [hnext]
      rfl
  · rw [readNumber, hmore, List.cons_append, run_bind_of_ok run_peek_cons]
    split
    · exact absurd (Option.some.inj ‹_›) hzero
    · rw [← List.cons_append, ← hmore]
      exact run_bind_of_ok (run_readDigits literal.areDigits_whole literal.whole_ne_nil hrest) _

theorem whole_false_ne_natural (significand : Nat) (n : UInt64) :
    Number.whole false significand ≠ .natural n := by
  unfold Number.whole
  split
  · exact absurd ‹_› Bool.false_ne_true
  · split <;> exact Number.noConfusion

theorem readNumberFrom_false_yields (digits : List Char) :
    Yields (readNumberFrom false digits) fun number => ∀ n, number ≠ .natural n := by
  refine yields_bind fun next => ?_
  split
  · intro cursor number after hrun n
    obtain ⟨value, rfl⟩ := readFraction_yields _ _ _ cursor number after hrun
    exact Number.noConfusion
  · exact yields_pure (whole_false_ne_natural _)

/-- A whole number that is not negative has no sign. -/
theorem readNumber_false_yields :
    Yields (readNumber false) fun number => ∀ n, number ≠ .natural n := by
  unfold readNumber
  refine yields_bind fun first => ?_
  split
  · refine yields_bind fun _ => yields_bind fun second => ?_
    split
    · split
      · exact yields_bind fun _ => readNumberFrom_false_yields ['0']
      · exact readNumberFrom_false_yields ['0']
    · exact readNumberFrom_false_yields ['0']
  · exact yields_bind readNumberFrom_false_yields

/-- What tells a number with a fraction or an exponent from digits alone. -/
def GoesOn (text : List Char) : Prop :=
  text.head? = some '.' ∨ text.head? = some 'e' ∨ text.head? = some 'E'

theorem EndsNumber.not_goesOn (hrest : EndsNumber rest) : ¬ GoesOn rest := by
  rintro (hhead | hhead | hhead)
  · exact (hrest _ hhead).2.1 rfl
  · exact (hrest _ hhead).2.2.1 rfl
  · exact (hrest _ hhead).2.2.2 rfl

theorem run_readNumberFrom_of_lt (hlt : Text.numeralValue digits < UInt64.size)
    (hrest : EndsNumber rest) :
    (readNumberFrom true digits).run ⟨rest, position⟩ =
      .ok (.natural (.ofNat (Text.numeralValue digits)), ⟨rest, position⟩) := by
  have hends : ¬ (rest.head? = some '.' ∨ rest.head? = some 'e' ∨ rest.head? = some 'E' ∨
      ¬ ([] : List Char).isEmpty = true) := by
    simpa [GoesOn] using hrest.not_goesOn
  rw [readNumberFrom, appendDigits_of_lt hlt, run_bind_of_ok run_peek, if_neg hends]
  rfl

theorem readNumberFrom_eq_readFraction
    (hmore : GoesOn rest ∨ UInt64.size ≤ Text.numeralValue digits) :
    (readNumberFrom true digits).run ⟨rest, position⟩ =
      (readFraction true (appendDigits UInt64.size 0 digits).1
        (appendDigits UInt64.size 0 digits).2.length).run ⟨rest, position⟩ := by
  have hgoes : rest.head? = some '.' ∨ rest.head? = some 'e' ∨ rest.head? = some 'E' ∨
      ¬ (appendDigits UInt64.size 0 digits).2.isEmpty = true := by
    rcases hmore with (hhead | hhead | hhead) | hlarge
    · exact .inl hhead
    · exact .inr (.inl hhead)
    · exact .inr (.inr (.inl hhead))
    · have hleft := appendDigits_of_ge (by decide) hlarge
      exact .inr (.inr (.inr fun hempty => hleft (List.isEmpty_iff.1 hempty)))
  rw [readNumberFrom, run_bind_of_ok run_peek, if_pos hgoes]

namespace Literal

variable {literal : Literal} {n : Nat}

theorem natural?_eq_some_iff :
    literal.natural? = some n ↔
      literal.negative = false ∧ literal.fraction = [] ∧ literal.exponent? = none ∧
        Text.numeralValue literal.whole = n := by
  unfold natural?
  split <;> simp_all

theorem unsignedText_of_natural (hnatural : literal.natural? = some n) :
    literal.unsignedText = literal.whole := by
  obtain ⟨-, hfraction, hexponent, -⟩ := natural?_eq_some_iff.1 hnatural
  simp [unsignedText, fractionText, exponentText, hfraction, hexponent]

theorem goesOn_of_not_natural (hnegative : literal.negative = false)
    (hnatural : literal.natural? = none) (rest : List Char) :
    GoesOn (literal.fractionText ++ (literal.exponentText ++ rest)) := by
  unfold fractionText exponentText
  by_cases hfraction : literal.fraction = []
  · cases hexponent : literal.exponent? with
    | none =>
      have hdigits := natural?_eq_some_iff.2 ⟨hnegative, hfraction, hexponent, rfl⟩
      rw [hnatural] at hdigits
      cases hdigits
    | some exponent =>
      rw [if_pos hfraction]
      rcases exponent.letter_eq with hletter | hletter
      · exact .inr (.inl (congrArg some hletter))
      · exact .inr (.inr (congrArg some hletter))
  · rw [if_neg hfraction]
    exact .inl rfl

end Literal

/-- A number that is written by digits alone is kept exactly if it has no more than 64 bits. -/
theorem run_readNumber_of_natural {literal : Literal} {n : Nat}
    (hnatural : literal.natural? = some n) (hn : n < UInt64.size) (hrest : EndsNumber rest) :
    (readNumber true).run ⟨literal.unsignedText ++ rest, position⟩ =
      .ok (.natural (.ofNat n), ⟨rest, position.past literal.unsignedText⟩) := by
  obtain ⟨-, -, -, rfl⟩ := Literal.natural?_eq_some_iff.1 hnatural
  rw [Literal.unsignedText_of_natural hnatural, run_readNumber_whole literal true hrest.endsDigits]
  exact run_readNumberFrom_of_lt hn hrest

/-- Nothing else is kept as a whole number. -/
theorem readNumber_of_not_natural {literal : Literal} (hnegative : literal.negative = false)
    (hnatural : ∀ n, literal.natural? = some n → UInt64.size ≤ n) (hrest : EndsNumber rest)
    {number : Number} {after : Cursor}
    (hrun : (readNumber true).run ⟨literal.unsignedText ++ rest, position⟩ = .ok (number, after)) :
    number.IsDecimal := by
  have hmore : GoesOn (literal.fractionText ++ (literal.exponentText ++ rest)) ∨
      UInt64.size ≤ Text.numeralValue literal.whole := by
    cases hvalue : literal.natural? with
    | none => exact .inl (Literal.goesOn_of_not_natural hnegative hvalue rest)
    | some n =>
      obtain ⟨-, -, -, rfl⟩ := Literal.natural?_eq_some_iff.1 hvalue
      exact .inr (hnatural _ hvalue)
  have hwhole := endsDigits_fractionText literal (endsDigits_exponentText literal hrest)
  rw [Literal.unsignedText, List.append_assoc, List.append_assoc,
    run_readNumber_whole literal true hwhole, readNumberFrom_eq_readFraction hmore] at hrun
  exact readFraction_yields _ _ _ _ _ _ hrun

end Reading

end TxClient.Json
