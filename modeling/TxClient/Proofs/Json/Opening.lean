import TxClient.Proofs.Json.Number

/-!
What stands at the borders of a value. Its first character tells what kind of value it is, and
what follows it never belongs to a number at its end.
-/

namespace TxClient.Json

open Text (run_bind_of_ok)

variable {c : Char} {blanks spelled inside rest : List Char} {value : Value} {position : Position}

namespace Value

/-- The values that begin with a character. -/
def OpensWith : Value → Char → Prop
  | null, c => c = 'n'
  | truth true, c => c = 't'
  | truth false, c => c = 'f'
  | number literal, c => if literal.negative then c = '-' else isDigit c = true
  | text _, c => c = '"'
  | array _, c => c = '['
  | object _, c => c = '{'

end Value

theorem isSpace_of_isDigit (hc : isDigit c = true) : isSpace c = false := by
  rw [Bool.eq_false_iff]
  intro hspace
  simp only [isSpace, Bool.or_eq_true, beq_iff_eq] at hspace
  rcases hspace with ((rfl | rfl) | rfl) | rfl <;> exact absurd hc (by decide)

theorem Value.OpensWith.number {literal : Literal} (hopens : (Value.number literal).OpensWith c) :
    c = '-' ∨ isDigit c = true := by
  simp only [OpensWith] at hopens
  split at hopens
  · exact .inl hopens
  · exact .inr hopens

/-- A first character that is no blank and closes no bracket. -/
theorem Value.OpensWith.visible (hopens : value.OpensWith c) : isSpace c = false ∧ c ≠ ']' := by
  cases value with
  | number literal =>
    rcases hopens.number with rfl | hdigit
    · decide
    · refine ⟨isSpace_of_isDigit hdigit, ?_⟩
      rintro rfl
      exact absurd hdigit (by decide)
  | truth value => cases value <;> cases hopens <;> decide
  | _ => cases hopens; decide

theorem Value.OpensWith.eq_null (hopens : value.OpensWith 'n') : value = .null := by
  cases value with
  | null => rfl
  | number literal => exact absurd hopens.number (by decide)
  | truth value => cases value <;> simp [OpensWith] at hopens
  | _ => simp [OpensWith] at hopens

/-- Without its sign a number begins with a digit. -/
theorem Literal.unsigned_opens (literal : Literal) :
    ∃ c more, literal.unsignedText = c :: more ∧ isDigit c = true := by
  obtain ⟨c, more, hmore⟩ := List.exists_cons_of_ne_nil literal.whole_ne_nil
  refine ⟨c, _, by rw [unsignedText, hmore]; rfl, literal.areDigits_whole c ?_⟩
  rw [hmore]
  exact List.mem_cons_self ..

theorem Literal.opens (literal : Literal) :
    ∃ c more, literal.text = c :: more ∧ (Value.number literal).OpensWith c := by
  simp only [Value.OpensWith]
  unfold Literal.text
  split
  · exact ⟨'-', _, rfl, rfl⟩
  · exact literal.unsigned_opens

theorem SpellsText.opens {value : String} (htext : SpellsText spelled value) :
    ∃ more, spelled = '"' :: more := by
  obtain ⟨inside, meant, -, hquoted, -⟩ := htext
  exact ⟨_, hquoted⟩

theorem Spells.opens (hspells : Spells spelled value) :
    ∃ c more, spelled = c :: more ∧ value.OpensWith c := by
  cases hspells with
  | number literal => exact literal.opens
  | text htext =>
    obtain ⟨more, rfl⟩ := htext.opens
    exact ⟨_, _, rfl, rfl⟩
  | _ => exact ⟨_, _, rfl, rfl⟩

/-- An array that is not empty begins with an element, behind blanks. -/
theorem SpellsElements.opens {values : List Value} (hinside : SpellsElements inside values) :
    ∃ blanks c more, AreBlanks blanks ∧ isSpace c = false ∧ c ≠ ']' ∧
      inside = blanks ++ c :: more := by
  cases hinside with
  | last hbefore hvalue =>
    obtain ⟨c, more, rfl, hopens⟩ := hvalue.opens
    exact ⟨_, c, _, hbefore, hopens.visible.1, hopens.visible.2, rfl⟩
  | more hbefore hvalue =>
    obtain ⟨c, more, rfl, hopens⟩ := hvalue.opens
    exact ⟨_, c, _, hbefore, hopens.visible.1, hopens.visible.2, rfl⟩

theorem SpellsKey.opens {name : List Char} {key : String} (hkey : SpellsKey name key) :
    ∃ blanks more, AreBlanks blanks ∧ name = blanks ++ '"' :: more := by
  obtain ⟨blanks, _, _, hblanks, ⟨_, _, _, rfl, _⟩, _, rfl⟩ := hkey
  exact ⟨blanks, _, hblanks, rfl⟩

/-- An object that is not empty begins with a key, behind blanks. -/
theorem SpellsMembers.opens {members : List (String × Value)}
    (hinside : SpellsMembers inside members) :
    ∃ blanks more, AreBlanks blanks ∧ inside = blanks ++ '"' :: more := by
  cases hinside with
  | last hkey =>
    obtain ⟨blanks, more, hblanks, rfl⟩ := hkey.opens
    exact ⟨blanks, _, hblanks, List.append_assoc ..⟩
  | more hkey =>
    obtain ⟨blanks, more, hblanks, rfl⟩ := hkey.opens
    exact ⟨blanks, _, hblanks, List.append_assoc ..⟩

/-- Neither blanks nor a comma or a closing bracket can belong to a number. -/
theorem endsNumber_of_areBlanks (hblanks : AreBlanks blanks) (hrest : EndsNumber rest) :
    EndsNumber (blanks ++ rest) := by
  cases blanks with
  | nil => exact hrest
  | cons first blanks =>
    intro c hhead
    have hfirst := hblanks first (List.mem_cons_self ..)
    rw [← Option.some.inj hhead]
    rcases hfirst with rfl | rfl | rfl | rfl <;> decide

theorem endsNumber_comma : EndsNumber (',' :: rest) := by
  intro c hhead
  rw [← Option.some.inj hhead]
  decide

theorem endsNumber_close (bracket : Bracket) : EndsNumber (bracket.close :: rest) := by
  intro c hhead
  rw [← Option.some.inj hhead]
  cases bracket <;> decide

end TxClient.Json
