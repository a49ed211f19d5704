import TxClient.Json.Writer
import TxClient.Proofs.Json.Opening

/-!
What is written spells what it was written from. Written texts are plain, written numbers are
digits alone, and no blanks stand between the tokens.
-/

namespace TxClient.Json

section Plain

variable {text : List Char} {key : String}

/-- All characters of a text stand for themselves between quotes. -/
def ArePlain (text : List Char) : Prop :=
  ∀ c ∈ text, isPlain c = true

instance (text : List Char) : Decidable (ArePlain text) :=
  decidable_of_iff (text.all isPlain = true) List.all_eq_true

theorem ArePlain.cons {c : Char} (hc : isPlain c = true) (hplain : ArePlain text) :
    ArePlain (c :: text) := by
  intro other hmem
  rcases List.mem_cons.1 hmem with rfl | hmem
  · exact hc
  · exact hplain other hmem

theorem ArePlain.append {other : List Char} (hplain : ArePlain text) (hother : ArePlain other) :
    ArePlain (text ++ other) := by
  intro c hmem
  exact (List.mem_append.1 hmem).elim (hplain c) (hother c)

theorem arePlain_of_areDigits (hdigits : Text.AreDigits text) : ArePlain text := by
  intro c hmem
  have hc := hdigits c hmem
  have hspace : ' ' ≤ c := by
    simp only [Text.isDecimal, Bool.and_eq_true, decide_eq_true_eq] at hc
    exact Char.le_trans (by decide) hc.1
  exact isPlain_of (by rintro rfl; exact absurd hc (by decide))
    (by rintro rfl; exact absurd hc (by decide)) hspace

theorem spellsCharacters_of_arePlain (hplain : ArePlain text) : SpellsCharacters text text := by
  induction text with
  | nil => exact .nil
  | cons c text ih =>
    have hc : (c ≠ '"' ∧ c ≠ '\\') ∧ ' ' ≤ c := by
      simpa [isPlain] using hplain c (List.mem_cons_self ..)
    have hrest : ArePlain text := fun other hmem => hplain other (List.mem_cons_of_mem _ hmem)
    exact .plain hc.1.1 hc.1.2 hc.2 (ih hrest)

theorem spellsText_writePlain (hplain : ArePlain text) :
    SpellsText (writePlain text) (String.ofList text) :=
  ⟨text, text, spellsCharacters_of_arePlain hplain, rfl, rfl⟩

theorem spells_writeLabel {α : Type} [Labelled α] {value : α}
    (hplain : ArePlain (Labelled.label value).toList) :
    Spells (writeLabel value) (.text (Labelled.label value)) := by
  have htext := spellsText_writePlain hplain
  rw [String.ofList_toList] at htext
  exact .text htext

theorem spellsKey_writePlain (hplain : ArePlain key.toList) :
    SpellsKey (writePlain key.toList ++ [':']) key := by
  have htext := spellsText_writePlain hplain
  rw [String.ofList_toList] at htext
  exact ⟨[], _, [], areBlanks_nil, htext, areBlanks_nil, rfl⟩

end Plain

section Numbers

/-- A number that is not negative, as short as possible. -/
def Literal.ofNat (n : Nat) : Literal where
  negative := false
  whole := Text.numeral n
  fraction := []
  exponent? := none
  whole_ne_nil := Text.numeral_ne_nil n
  areDigits_whole := Text.areDigits_numeral n
  whole_of_zero := by
    intro hzero
    by_cases hn : n = 0
    · rw [hn, Text.numeral_of_lt (by decide)]
      rfl
    · exact absurd hzero (Text.head?_numeral_ne_zero hn)
  areDigits_fraction := by
    intro c hmem
    cases hmem

theorem Literal.natural?_ofNat (n : Nat) : (ofNat n).natural? = some n := by
  simp [natural?, ofNat, Text.numeralValue_numeral]

theorem spells_writeNumber (n : Nat) : Spells (writeNumber n) (.number (.ofNat n)) := by
  have htext : (Literal.ofNat n).text = writeNumber n := by
    simp [Literal.text, Literal.unsignedText, Literal.fractionText, Literal.exponentText,
      Literal.ofNat, writeNumber]
  rw [← htext]
  exact .number _

end Numbers

section Objects

/-- A member as it is written and what it means. -/
structure Entry where
  key : String
  written : List Char
  value : Value
  arePlain : ArePlain key.toList
  spells : Spells written value

def Entry.writing (entry : Entry) : String × List Char :=
  (entry.key, entry.written)

def Entry.member (entry : Entry) : String × Value :=
  (entry.key, entry.value)

/-- One entry at least stands between the braces. -/
theorem spellsMembers_write (entry : Entry) (entries : List Entry) :
    SpellsMembers ([','].intercalate (((entry :: entries).map Entry.writing).map writeMember))
      ((entry :: entries).map Entry.member) := by
  induction entries generalizing entry with
  | nil =>
    have hlast := SpellsMembers.last (spellsKey_writePlain entry.arePlain) areBlanks_nil
      entry.spells areBlanks_nil
    simpa [writeMember, Entry.writing, Entry.member] using hlast
  | cons next entries ih =>
    have hmore := SpellsMembers.more (spellsKey_writePlain entry.arePlain) areBlanks_nil
      entry.spells areBlanks_nil (ih next)
    simpa [writeMember, Entry.writing, Entry.member] using hmore

theorem document_writeObject (entries : List Entry) :
    Document (String.ofList (writeObject (entries.map Entry.writing)))
      (.object (entries.map Entry.member)) := by
  refine ⟨[], writeObject (entries.map Entry.writing), [], areBlanks_nil, ?_, areBlanks_nil, ?_⟩
  · cases entries with
    | nil => exact .emptyObject areBlanks_nil
    | cons entry entries => exact .object (spellsMembers_write entry entries)
  · simp

end Objects

end TxClient.Json
