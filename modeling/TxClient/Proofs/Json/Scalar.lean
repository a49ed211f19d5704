import TxClient.Proofs.Json.Skip

/-!
What the readers of simple values take and what they refuse. A reader takes a value whatever its
spelling, with blanks in front of it, and is behind it afterwards; a value that means nothing to
the reader makes it fail.
-/

namespace TxClient.Json

open Text (run_bind_of_ok run_map_of_ok)

variable {α β : Type} {c : Char} {blanks spelled rest : List Char} {position : Position}

/-- The reader takes values for what they mean, and no others. -/
structure Takes (reader : Reader β) (means : Value → β → Prop) : Prop where
  reads {blanks spelled rest : List Char} {position : Position} {value : Value} {meant : β} :
    AreBlanks blanks → Spells spelled value → EndsNumber rest → means value meant →
      reader.run ⟨blanks ++ (spelled ++ rest), position⟩ =
        .ok (meant, ⟨rest, position.past (blanks ++ spelled)⟩)
  refuses {blanks spelled rest : List Char} {position : Position} {value : Value} :
    AreBlanks blanks → Spells spelled value → EndsNumber rest → (∀ meant, ¬ means value meant) →
      Fails reader ⟨blanks ++ (spelled ++ rest), position⟩

theorem Yields.fails {reader : Reader α} (hyields : Yields reader fun _ => False)
    (cursor : Cursor) : Fails reader cursor := by
  cases hrun : reader.run cursor with
  | error error => exact ⟨error, hrun⟩
  | ok outcome => exact (hyields cursor outcome.1 outcome.2 hrun).elim

/-- What is read may be put to use. -/
theorem Takes.map {γ : Type} {reader : Reader β} {means : Value → β → Prop}
    {uses : Value → γ → Prop} {f : β → γ} (htakes : Takes reader means)
    (huses : ∀ value result, uses value result ↔ ∃ meant, means value meant ∧ f meant = result) :
    Takes (f <$> reader) uses where
  reads := by
    intro blanks spelled rest position value result hblanks hspells hrest hresult
    obtain ⟨meant, hmeant, rfl⟩ := (huses value result).1 hresult
    exact run_map_of_ok (htakes.reads hblanks hspells hrest hmeant) f
  refuses := by
    intro blanks spelled rest position value hblanks hspells hrest hnone
    refine Fails.map (htakes.refuses hblanks hspells hrest fun meant hmeant => ?_) f
    exact hnone (f meant) ((huses value (f meant)).2 ⟨meant, hmeant, rfl⟩)

/-- A value of the wrong kind is never taken, whatever it is. -/
theorem invalidType_yields (expected : String) :
    Yields (invalidType expected : Reader α) fun _ => False := by
  have hfail (found : Found) :
      Yields (failHere (.invalidType found expected) : Reader α) fun _ => False :=
    yields_bind fun _ => yields_throw _
  unfold invalidType
  refine yields_bind fun next => ?_
  split
  · exact yields_bind fun _ => yields_bind fun _ => yields_bind hfail
  · exact yields_bind fun _ => yields_bind fun _ => yields_bind hfail
  · exact yields_bind fun _ => yields_bind fun _ => yields_bind hfail
  · exact yields_bind fun _ => yields_bind fun _ => yields_bind hfail
  · exact yields_bind fun _ => yields_bind hfail
  · exact yields_bind hfail
  · exact yields_bind hfail
  · split
    · exact yields_bind fun _ => yields_bind hfail
    · exact yields_bind hfail
  · exact yields_bind hfail

section Unsigned

/-- A value denotes a whole number below `2 ^ bits`. -/
def MeansUnsigned (bits : Nat) (value : Value) (n : Nat) : Prop :=
  value.natural? = some n ∧ n < Number.twoTo bits

variable {bits : Nat} {literal : Literal} {value : Value} {n : Nat}

/-- What a reader of whole numbers makes of a number that it has read. -/
def takeUnsigned (bits : Nat) (number : Number) : Reader Nat :=
  let expected := "u" ++ toString bits
  match number with
  | .natural value =>
    if value.toNat < Number.twoTo bits then return value.toNat
    else failHere (.invalidValue number.found expected)
  | .negative _ => failHere (.invalidValue number.found expected)
  | .decimal _ => failHere (.invalidType number.found expected)

theorem fails_takeUnsigned {number : Number} (cursor : Cursor)
    (hnumber : ∀ value, number = .natural value → ¬ value.toNat < Number.twoTo bits) :
    Fails (takeUnsigned bits number) cursor := by
  cases number with
  | natural value =>
    simp only [takeUnsigned, if_neg (hnumber value rfl)]
    exact fails_failHere _
  | negative amount => exact fails_failHere _
  | decimal value => exact fails_failHere _

theorem readUnsigned_negative (hblanks : AreBlanks blanks) :
    (readUnsigned bits).run ⟨blanks ++ '-' :: rest, position⟩ =
      (readNumber false >>= takeUnsigned bits).run ⟨rest, (position.past blanks).after '-'⟩ := by
  rw [readUnsigned, run_bind_of_ok (run_peekToken_cons hblanks rfl)]
  rfl

theorem readUnsigned_digit (hblanks : AreBlanks blanks) (hc : isDigit c = true) :
    (readUnsigned bits).run ⟨blanks ++ c :: rest, position⟩ =
      (readNumber true >>= takeUnsigned bits).run ⟨c :: rest, position.past blanks⟩ := by
  rw [readUnsigned, run_bind_of_ok (run_peekToken_cons hblanks (isSpace_of_isDigit hc))]
  split
  · cases ‹some c = none›
  · cases Option.some.inj ‹some c = some _›
    exact absurd hc (by decide)
  · cases Option.some.inj ‹some c = some _›
    rw [if_pos hc]
    rfl

theorem fails_readUnsigned_of_other (hblanks : AreBlanks blanks) (hc : isSpace c = false)
    (hminus : c ≠ '-') (hdigit : isDigit c = false) :
    Fails (readUnsigned bits) ⟨blanks ++ c :: rest, position⟩ := by
  refine fails_bind_of_ok (run_peekToken_cons hblanks hc) ?_
  split
  · cases ‹some c = none›
  · exact absurd (Option.some.inj ‹_›) hminus
  · cases Option.some.inj ‹some c = some _›
    rw [if_neg (by rw [hdigit]; decide)]
    exact ((invalidType_yields _).fails _).bind _

theorem twoTo_le_size (hbits : bits ≤ 64) : Number.twoTo bits ≤ UInt64.size :=
  Nat.pow_le_pow_right (by decide) hbits

/-- A number is taken if it is written by digits alone and has no more bits than allowed. -/
theorem run_readUnsigned_number (hbits : bits ≤ 64) (hblanks : AreBlanks blanks)
    (hrest : EndsNumber rest) (hmeans : MeansUnsigned bits (.number literal) n) :
    (readUnsigned bits).run ⟨blanks ++ (literal.text ++ rest), position⟩ =
      .ok (n, ⟨rest, position.past (blanks ++ literal.text)⟩) := by
  obtain ⟨hnatural, hn⟩ := hmeans
  have hsize : n < UInt64.size := Nat.lt_of_lt_of_le hn (twoTo_le_size hbits)
  have hnegative := (Literal.natural?_eq_some_iff.1 hnatural).1
  have htext : literal.text = literal.unsignedText := by
    simp [Literal.text, hnegative]
  have hrun : (readNumber true).run ⟨literal.unsignedText ++ rest, position.past blanks⟩ = _ :=
    run_readNumber_of_natural hnatural hsize hrest
  obtain ⟨c, more, hmore, hc⟩ := literal.unsigned_opens
  rw [hmore, List.cons_append] at hrun
  rw [htext, hmore, List.cons_append, readUnsigned_digit hblanks hc, run_bind_of_ok hrun,
    Position.past_append]
  simp only [takeUnsigned, UInt64.toNat_ofNat_of_lt' hsize, if_pos hn]
  rfl

theorem fails_readUnsigned_negative (hnegative : literal.negative = true)
    (hblanks : AreBlanks blanks) :
    Fails (readUnsigned bits) ⟨blanks ++ (literal.text ++ rest), position⟩ := by
  have htext : literal.text = '-' :: literal.unsignedText := by
    simp [Literal.text, hnegative]
  rw [htext, List.cons_append, Fails, readUnsigned_negative hblanks]
  refine fails_bind_of_forall fun number after hrun => fails_takeUnsigned after ?_
  intro value hvalue
  exact absurd hvalue (readNumber_false_yields _ _ _ hrun value)

/-- Digits alone are read, so that it shows how large the number is; nothing else is whole. -/
theorem fails_readUnsigned_positive (hnegative : literal.negative = false)
    (hblanks : AreBlanks blanks) (hrest : EndsNumber rest)
    (hmeans : ∀ n, ¬ MeansUnsigned bits (.number literal) n) :
    Fails (readUnsigned bits) ⟨blanks ++ (literal.text ++ rest), position⟩ := by
  have htext : literal.text = literal.unsignedText := by
    simp [Literal.text, hnegative]
  have hnumber : ∀ number after,
      (readNumber true).run ⟨literal.unsignedText ++ rest, position.past blanks⟩ =
        .ok (number, after) →
      ∀ value, number = .natural value → ¬ value.toNat < Number.twoTo bits := by
    intro number after hrun value hvalue
    by_cases hlarge : ∀ n, literal.natural? = some n → UInt64.size ≤ n
    · obtain ⟨_, rfl⟩ := readNumber_of_not_natural hnegative hlarge hrest hrun
      cases hvalue
    · simp only [Classical.not_forall, Nat.not_le] at hlarge
      obtain ⟨n, hnatural, hn⟩ := hlarge
      rw [run_readNumber_of_natural hnatural hn hrest, hvalue] at hrun
      cases hrun
      rw [UInt64.toNat_ofNat_of_lt' hn]
      exact fun hlt => hmeans n ⟨hnatural, hlt⟩
  obtain ⟨c, more, hmore, hc⟩ := literal.unsigned_opens
  rw [hmore, List.cons_append] at hnumber
  rw [htext, hmore, List.cons_append, Fails, readUnsigned_digit hblanks hc]
  exact fails_bind_of_forall fun number after hrun =>
    fails_takeUnsigned after (hnumber number after hrun)

theorem takes_readUnsigned (hbits : bits ≤ 64) :
    Takes (readUnsigned bits) (MeansUnsigned bits) where
  reads := by
    intro blanks spelled rest position value n hblanks hspells hrest hmeans
    cases hspells with
    | number literal => exact run_readUnsigned_number hbits hblanks hrest hmeans
    | _ => cases hmeans.1
  refuses := by
    intro blanks spelled rest position value hblanks hspells hrest hmeans
    cases hspells with
    | number literal =>
      cases hnegative : literal.negative with
      | true => exact fails_readUnsigned_negative hnegative hblanks
      | false => exact fails_readUnsigned_positive hnegative hblanks hrest hmeans
    | text htext =>
      obtain ⟨more, rfl⟩ := htext.opens
      exact fails_readUnsigned_of_other hblanks rfl (by decide) rfl
    | _ => exact fails_readUnsigned_of_other hblanks rfl (by decide) rfl

/-- Words of so many bits, in which whole numbers are stored. -/
class Word (α : Type) (bits : outParam Nat) where
  toNat : α → Nat
  ofNat : Nat → α
  toNat_lt (word : α) : toNat word < Number.twoTo bits
  ofNat_toNat (word : α) : ofNat (toNat word) = word
  toNat_ofNat {n : Nat} (hn : n < Number.twoTo bits) : toNat (ofNat n) = n

instance : Word UInt32 32 where
  toNat := UInt32.toNat
  ofNat := UInt32.ofNat
  toNat_lt := UInt32.toNat_lt
  ofNat_toNat _ := UInt32.ofNat_toNat
  toNat_ofNat := UInt32.toNat_ofNat_of_lt'

instance : Word UInt64 64 where
  toNat := UInt64.toNat
  ofNat := UInt64.ofNat
  toNat_lt := UInt64.toNat_lt
  ofNat_toNat _ := UInt64.ofNat_toNat
  toNat_ofNat := UInt64.toNat_ofNat_of_lt'

variable {ω : Type} [Word ω bits]

/-- A value is written by digits alone, which denote the number that the word stores. -/
def SpellsWord (value : Value) (word : ω) : Prop :=
  value.natural? = some (Word.toNat word)

theorem SpellsWord.unique {first second : ω} (hfirst : SpellsWord value first)
    (hsecond : SpellsWord value second) : first = second := by
  have hsame : Word.toNat first = Word.toNat second :=
    Option.some.inj (hfirst.symm.trans hsecond)
  rw [← Word.ofNat_toNat first, hsame, Word.ofNat_toNat]

theorem SpellsWord.meansUnsigned {word : ω} (hspells : SpellsWord value word) :
    MeansUnsigned bits value (Word.toNat word) :=
  ⟨hspells, Word.toNat_lt word⟩

theorem MeansUnsigned.spellsWord (hmeans : MeansUnsigned bits value n) :
    SpellsWord value (Word.ofNat n : ω) := by
  obtain ⟨hnatural, hlt⟩ := hmeans
  rw [SpellsWord, Word.toNat_ofNat hlt, hnatural]

/-- No number that has the bits changes when it is stored. -/
theorem exists_spellsWord_iff {p : ω → Prop} :
    (∃ word, SpellsWord value word ∧ p word) ↔
      ∃ n, MeansUnsigned bits value n ∧ p (Word.ofNat n) := by
  constructor
  · rintro ⟨word, hspells, hword⟩
    refine ⟨Word.toNat word, hspells.meansUnsigned, ?_⟩
    rwa [Word.ofNat_toNat]
  · rintro ⟨n, hmeans, hn⟩
    exact ⟨Word.ofNat n, hmeans.spellsWord, hn⟩

end Unsigned

section Labels

/-- A value without information. -/
def MeansUnit (value : Value) (_ : Unit) : Prop :=
  value = .null

theorem takes_readUnit : Takes readUnit MeansUnit where
  reads := by
    intro blanks spelled rest position value meant hblanks hspells hrest hmeans
    subst hmeans
    cases hspells
    rw [Position.past_append, readUnit]
    refine (run_bind_of_ok (run_peekToken_cons hblanks rfl) _).trans ?_
    refine (run_bind_of_ok run_advance _).trans ?_
    exact run_readWord ['u', 'l', 'l']
  refuses := by
    intro blanks spelled rest position value hblanks hspells hrest hmeans
    obtain ⟨c, more, rfl, hopens⟩ := hspells.opens
    have hc : c ≠ 'n' := by
      rintro rfl
      exact hmeans () hopens.eq_null
    refine fails_bind_of_ok (run_peekToken_cons hblanks hopens.visible.1) ?_
    split
    · exact fails_failAhead _
    · exact absurd (Option.some.inj ‹_›) hc
    · exact (invalidType_yields _).fails _

theorem run_readUnit (hblanks : AreBlanks blanks) (hspells : Spells spelled .null)
    (hrest : EndsNumber rest) :
    readUnit.run ⟨blanks ++ (spelled ++ rest), position⟩ =
      .ok ((), ⟨rest, position.past (blanks ++ spelled)⟩) :=
  takes_readUnit.reads hblanks hspells hrest rfl

/-- What follows the key in an object that names a value. -/
def endLabelled (value : α) : Reader α := do
  readUnit
  match ← peekToken? with
  | some '}' => do advance; return value
  | some _ => failHere .expectedValue
  | none => failHere .endInObject

variable {named : α} {after : List Char}

theorem run_endLabelled (hblanks : AreBlanks blanks) (hspells : Spells spelled .null)
    (hafter : AreBlanks after) :
    (endLabelled named).run ⟨blanks ++ (spelled ++ (after ++ '}' :: rest)), position⟩ =
      .ok (named, ⟨rest, position.past (blanks ++ (spelled ++ (after ++ ['}'])))⟩) := by
  have hends : EndsNumber (after ++ '}' :: rest) :=
    endsNumber_of_areBlanks hafter (endsNumber_close .object)
  rw [endLabelled, run_bind_of_ok (run_readUnit hblanks hspells hends),
    run_bind_of_ok (run_peekToken_cons hafter rfl)]
  refine (run_bind_of_ok run_advance _).trans ?_
  simp only [Position.past_append, Position.past_cons, Position.past_nil]
  rfl

theorem fails_endLabelled_value {value : Value} (hblanks : AreBlanks blanks)
    (hspells : Spells spelled value) (hrest : EndsNumber rest) (hvalue : value ≠ .null) :
    Fails (endLabelled named) ⟨blanks ++ (spelled ++ rest), position⟩ :=
  (takes_readUnit.refuses hblanks hspells hrest fun _ => hvalue).bind _

theorem fails_endLabelled_comma (hblanks : AreBlanks blanks) (hspells : Spells spelled .null)
    (hafter : AreBlanks after) :
    Fails (endLabelled named) ⟨blanks ++ (spelled ++ (after ++ ',' :: rest)), position⟩ := by
  have hends : EndsNumber (after ++ ',' :: rest) := endsNumber_of_areBlanks hafter endsNumber_comma
  refine fails_bind_of_ok (run_readUnit hblanks hspells hends) ?_
  exact fails_bind_of_ok (run_peekToken_cons hafter rfl) (fails_failHere _)

variable [Labelled α]

/-- A value is a name: a text, or an object whose only member has the name as its key and carries
no information. -/
def Value.IsName (value : Value) (name : String) : Prop :=
  value = .text name ∨ value = .object [(name, .null)]

/-- A value names one of the values that have labels. -/
def Value.Names (value : Value) (named : α) : Prop :=
  value.IsName (Labelled.label named)

/-- Every value is found under its label. -/
def LabelsFound (α : Type) [Labelled α] : Prop :=
  ∀ named : α, Labelled.ofLabel? (Labelled.label named) = some named

theorem label_of_ofLabel? {text : String} {named : α}
    (hfound : Labelled.ofLabel? text = some named) : text = Labelled.label named :=
  (eq_of_beq (List.find?_some (p := fun value => Labelled.label value == text) hfound)).symm

/-- No value names two things. -/
theorem Value.Names.unique (hlabels : LabelsFound α) {value : Value} {first second : α}
    (hfirst : value.Names first) (hsecond : value.Names second) : first = second := by
  have hlabel : Labelled.label first = Labelled.label second := by
    rcases hfirst with rfl | rfl <;> rcases hsecond with hsame | hsame <;> simp_all
  exact Option.some.inj ((hlabels first).symm.trans ((congrArg _ hlabel).trans (hlabels second)))

theorem run_readLabel (hlabels : LabelsFound α) {named : α}
    (htext : SpellsText spelled (Labelled.label named)) :
    readLabel.run ⟨spelled ++ rest, position⟩ = .ok (named, ⟨rest, position.past spelled⟩) := by
  rw [readLabel, run_bind_of_ok (run_readText htext), hlabels named]
  rfl

theorem fails_readLabel {text : String} (htext : SpellsText spelled text)
    (hnone : ∀ named : α, text ≠ Labelled.label named) :
    Fails (readLabel : Reader α) ⟨spelled ++ rest, position⟩ := by
  refine fails_bind_of_ok (run_readText htext) ?_
  split
  · exact absurd (label_of_ofLabel? ‹_›) (hnone _)
  · exact fails_failHere _

theorem run_readLabelled_key (hlabels : LabelsFound α) {named : α} {name : List Char}
    (hblanks : AreBlanks blanks) (hkey : SpellsKey name (Labelled.label named)) :
    readLabelled.run ⟨blanks ++ '{' :: (name ++ rest), position⟩ =
      (endLabelled named).run ⟨rest, ((position.past blanks).after '{').past name⟩ := by
  obtain ⟨before, text, after, hbefore, htext, hafter, rfl⟩ := hkey
  have hlabel (position : Position) :
      readLabel.run ⟨text ++ (after ++ ':' :: rest), position⟩ = .ok (named, _) :=
    run_readLabel hlabels htext
  obtain ⟨more, rfl⟩ := htext.opens
  simp only [List.append_assoc, List.cons_append, List.nil_append] at hlabel ⊢
  rw [readLabelled, run_bind_of_ok (run_peekToken_cons hblanks rfl)]
  refine (run_bind_of_ok run_advance _).trans ?_
  refine (run_bind_of_ok (run_peekToken_cons hbefore rfl) _).trans ?_
  refine (run_bind_of_ok (hlabel _) _).trans ?_
  refine (run_bind_of_ok (run_readColon hafter) _).trans ?_
  simp only [Position.past_append, Position.past_cons, Position.past_nil]
  rfl

theorem fails_readLabelled_key {key : String} {name : List Char} (hblanks : AreBlanks blanks)
    (hkey : SpellsKey name key) (hnone : ∀ named : α, key ≠ Labelled.label named) :
    Fails (readLabelled : Reader α) ⟨blanks ++ '{' :: (name ++ rest), position⟩ := by
  obtain ⟨before, text, after, hbefore, htext, hafter, rfl⟩ := hkey
  have hlabel (position : Position) :
      Fails (readLabel : Reader α) ⟨text ++ (after ++ ':' :: rest), position⟩ :=
    fails_readLabel htext hnone
  obtain ⟨more, rfl⟩ := htext.opens
  simp only [List.append_assoc, List.cons_append, List.nil_append] at hlabel ⊢
  refine fails_bind_of_ok (run_peekToken_cons hblanks rfl) ?_
  refine fails_bind_of_ok run_advance ?_
  refine fails_bind_of_ok (run_peekToken_cons hbefore rfl) ?_
  exact (hlabel _).bind _

theorem fails_readLabelled_of_other (hblanks : AreBlanks blanks) (hc : isSpace c = false)
    (hquote : c ≠ '"') (hbrace : c ≠ '{') :
    Fails (readLabelled : Reader α) ⟨blanks ++ c :: rest, position⟩ := by
  refine fails_bind_of_ok (run_peekToken_cons hblanks hc) ?_
  split
  · exact absurd (Option.some.inj ‹_›) hquote
  · exact absurd (Option.some.inj ‹_›) hbrace
  · exact fails_failAhead _
  · exact fails_failAhead _

/-- One member is read as long as its key names a value and it carries no information. -/
theorem run_readLabelled_object (hlabels : LabelsFound α) {inside : List Char}
    (hblanks : AreBlanks blanks) (hinside : SpellsMembers inside [(Labelled.label named, .null)]) :
    readLabelled.run ⟨blanks ++ ('{' :: (inside ++ ['}']) ++ rest), position⟩ =
      .ok (named, ⟨rest, position.past (blanks ++ '{' :: (inside ++ ['}']))⟩) := by
  cases hinside with
  | last hkey hbefore hvalue hafter =>
    simp only [List.append_assoc, List.cons_append, List.nil_append]
    rw [run_readLabelled_key hlabels hblanks hkey, run_endLabelled hbefore hvalue hafter]
    simp
  | more _ _ _ _ hothers => cases hothers

theorem fails_readLabelled_object (hlabels : LabelsFound α) {inside : List Char}
    {members : List (String × Value)} (hblanks : AreBlanks blanks)
    (hinside : SpellsMembers inside members)
    (hmembers : ∀ named : α, members ≠ [(Labelled.label named, .null)]) :
    Fails (readLabelled : Reader α) ⟨blanks ++ ('{' :: (inside ++ ['}']) ++ rest), position⟩ := by
  have hrefused {name more : List Char} {key : String} (hkey : SpellsKey name key)
      (hend : ∀ named : α, key = Labelled.label named →
        ∀ position, Fails (endLabelled named) ⟨more, position⟩) :
      Fails (readLabelled : Reader α) ⟨blanks ++ '{' :: (name ++ more), position⟩ := by
    by_cases hnamed : ∃ named : α, key = Labelled.label named
    · obtain ⟨named, rfl⟩ := hnamed
      rw [Fails, run_readLabelled_key hlabels hblanks hkey]
      exact hend named rfl _
    · exact fails_readLabelled_key hblanks hkey fun named hkey => hnamed ⟨named, hkey⟩
  cases hinside with
  | @last _ _ _ _ _ value hkey hbefore hvalue hafter =>
    simp only [List.append_assoc, List.cons_append]
    refine hrefused hkey fun named hlabel position => ?_
    refine fails_endLabelled_value hbefore hvalue ?_ ?_
    · exact endsNumber_of_areBlanks hafter (endsNumber_close .object)
    · rintro rfl
      exact hmembers named (by rw [hlabel])
  | @more _ _ _ _ _ _ value _ hkey hbefore hvalue hafter hothers =>
    simp only [List.append_assoc, List.cons_append]
    refine hrefused hkey fun named _ position => ?_
    by_cases hnull : value = .null
    · subst hnull
      exact fails_endLabelled_comma hbefore hvalue hafter
    · exact fails_endLabelled_value hbefore hvalue
        (endsNumber_of_areBlanks hafter endsNumber_comma) hnull

theorem takes_readLabelled (hlabels : LabelsFound α) :
    Takes (readLabelled : Reader α) Value.Names where
  reads := by
    intro blanks spelled rest position value named hblanks hspells hrest hmeans
    rcases hmeans with rfl | rfl
    · cases hspells with
      | text htext =>
        have hlabel (position : Position) : readLabel.run ⟨spelled ++ rest, position⟩ = _ :=
          run_readLabel hlabels htext
        obtain ⟨more, rfl⟩ := htext.opens
        rw [List.cons_append, readLabelled, run_bind_of_ok (run_peekToken_cons hblanks rfl),
          Position.past_append]
        exact hlabel _
    · cases hspells with
      | object hinside => exact run_readLabelled_object hlabels hblanks hinside
  refuses := by
    intro blanks spelled rest position value hblanks hspells hrest hmeans
    cases hspells with
    | text htext =>
      have hlabel (position : Position) :
          Fails (readLabel : Reader α) ⟨spelled ++ rest, position⟩ :=
        fails_readLabel htext fun named htext => hmeans named (.inl (by rw [htext]))
      obtain ⟨more, rfl⟩ := htext.opens
      exact fails_bind_of_ok (run_peekToken_cons hblanks rfl) (hlabel _)
    | emptyObject hinside =>
      simp only [List.cons_append, List.append_assoc]
      refine fails_bind_of_ok (run_peekToken_cons hblanks rfl) ?_
      refine fails_bind_of_ok run_advance ?_
      exact fails_bind_of_ok (run_peekToken_cons hinside rfl) ((fails_failAhead _).bind _)
    | object hinside =>
      refine fails_readLabelled_object hlabels hblanks hinside fun named hmembers => ?_
      exact hmeans named (.inr (by rw [hmembers]))
    | number literal =>
      obtain ⟨c, more, hmore, hopens⟩ := literal.opens
      rw [hmore]
      refine fails_readLabelled_of_other hblanks hopens.visible.1 ?_ ?_ <;> rintro rfl
      · exact absurd hopens.number (by decide)
      · exact absurd hopens.number (by decide)
    | _ => exact fails_readLabelled_of_other hblanks rfl (by decide) (by decide)

end Labels

section Times

/-- A value is a text that gives a time. -/
def MeansTime (value : Value) (time : Timestamp) : Prop :=
  ∃ text, value = .text text ∧ Rfc3339.read text.toList = .ok time

theorem fails_readTime_of_other (hblanks : AreBlanks blanks) (hc : isSpace c = false)
    (hquote : c ≠ '"') : Fails readTime ⟨blanks ++ c :: rest, position⟩ := by
  refine fails_bind_of_ok (run_peekToken_cons hblanks hc) ?_
  split
  · exact fails_failAhead _
  · exact absurd (Option.some.inj ‹_›) hquote
  · exact (invalidType_yields _).fails _

theorem takes_readTime : Takes readTime MeansTime where
  reads := by
    rintro blanks spelled rest position value time hblanks hspells hrest ⟨text, rfl, htime⟩
    cases hspells with
    | text htext =>
      have hrun (position : Position) : readText.run ⟨spelled ++ rest, position⟩ = _ :=
        run_readText htext
      obtain ⟨more, rfl⟩ := htext.opens
      rw [List.cons_append, readTime, run_bind_of_ok (run_peekToken_cons hblanks rfl),
        Position.past_append]
      refine (run_bind_of_ok (hrun _) _).trans ?_
      rw [htime]
      rfl
  refuses := by
    intro blanks spelled rest position value hblanks hspells hrest hmeans
    cases hspells with
    | text htext =>
      have hrun (position : Position) : readText.run ⟨spelled ++ rest, position⟩ = _ :=
        run_readText htext
      obtain ⟨more, rfl⟩ := htext.opens
      refine fails_bind_of_ok (run_peekToken_cons hblanks rfl) (fails_bind_of_ok (hrun _) ?_)
      split
      · exact absurd ⟨_, rfl, ‹_›⟩ (hmeans _)
      · exact fails_failHere _
    | number literal =>
      obtain ⟨c, more, hmore, hopens⟩ := literal.opens
      rw [hmore]
      refine fails_readTime_of_other hblanks hopens.visible.1 ?_
      rintro rfl
      exact absurd hopens.number (by decide)
    | _ => exact fails_readTime_of_other hblanks rfl (by decide)

/-- A value may be absent. -/
def MeansOptional (means : Value → β → Prop) (value : Value) : Option β → Prop
  | none => value = .null
  | some meant => value ≠ .null ∧ means value meant

variable {reader : Reader β} {means : Value → β → Prop} {value : Value}

theorem run_readOptional_null (hblanks : AreBlanks blanks) (hspells : Spells spelled .null) :
    (readOptional reader).run ⟨blanks ++ (spelled ++ rest), position⟩ =
      .ok (none, ⟨rest, position.past (blanks ++ spelled)⟩) := by
  cases hspells
  rw [Position.past_append, readOptional]
  refine (run_bind_of_ok (run_peekToken_cons hblanks rfl) _).trans ?_
  refine (run_bind_of_ok run_advance _).trans ?_
  exact run_bind_of_ok (run_readWord ['u', 'l', 'l']) _

/-- What is not absent is left to the other reader. -/
theorem readOptional_of_ne_null (hblanks : AreBlanks blanks) (hspells : Spells spelled value)
    (hnull : value ≠ .null) :
    (readOptional reader).run ⟨blanks ++ (spelled ++ rest), position⟩ =
      (some <$> reader).run ⟨spelled ++ rest, position.past blanks⟩ := by
  obtain ⟨c, more, rfl, hopens⟩ := hspells.opens
  rw [List.cons_append, readOptional,
    run_bind_of_ok (run_peekToken_cons hblanks hopens.visible.1)]
  split
  · cases Option.some.inj ‹some c = some _›
    exact absurd hopens.eq_null hnull
  · rfl

theorem takes_readOptional (htakes : Takes reader means) :
    Takes (readOptional reader) (MeansOptional means) where
  reads := by
    intro blanks spelled rest position value meant? hblanks hspells hrest hmeans
    cases meant? with
    | none =>
      subst hmeans
      exact run_readOptional_null hblanks hspells
    | some meant =>
      have hrun : reader.run ⟨[] ++ (spelled ++ rest), position.past blanks⟩ = _ :=
        htakes.reads areBlanks_nil hspells hrest hmeans.2
      rw [readOptional_of_ne_null hblanks hspells hmeans.1, Position.past_append]
      exact run_map_of_ok hrun some
  refuses := by
    intro blanks spelled rest position value hblanks hspells hrest hmeans
    have hnull : value ≠ .null := hmeans none
    have hfails : Fails reader ⟨[] ++ (spelled ++ rest), position.past blanks⟩ :=
      htakes.refuses areBlanks_nil hspells hrest fun meant hmeant =>
        hmeans (some meant) ⟨hnull, hmeant⟩
    rw [Fails, readOptional_of_ne_null hblanks hspells hnull]
    exact hfails.map some

end Times

end TxClient.Json
