import TxClient.Text.Uppercase

/-!
What a user may write for a name in capital letters. A text whose capital form is the name
spells it, letter by letter or two letters at once, and the table of capital forms has no other
way to the name.
-/

namespace TxClient.Text

/-- One character that is written for one character of a name: the same in either case, or one
of the two letters outside ASCII whose capitals are in ASCII. -/
inductive StandsFor : Char → Char → Prop where
  | cased (c : Char) : StandsFor c c.toUpper
  | longS : StandsFor 'ſ' 'S'
  | dotlessI : StandsFor 'ı' 'I'

/-- The text is a spelling of the name. -/
inductive Spells : (text name : List Char) → Prop where
  | nil : Spells [] []
  | letter {c x : Char} {text name : List Char} (hstands : StandsFor c x)
      (hrest : Spells text name) : Spells (c :: text) (x :: name)
  | sharpS {text name : List Char} (hrest : Spells text name) :
      Spells ('ß' :: text) ('S' :: 'S' :: name)
  | ligature {c : Char} {text name : List Char} (hligature : c = 'ﬅ' ∨ c = 'ﬆ')
      (hrest : Spells text name) : Spells (c :: text) ('S' :: 'T' :: name)

/-- What names are made of: spaces, underscores and capital letters. The letter F is left out,
since further ligatures would spell it. -/
def IsNameCharacter (c : Char) : Prop :=
  c.toNat = 0x20 ∨ c.toNat = 0x5f ∨ 0x41 ≤ c.toNat ∧ c.toNat ≤ 0x5a ∧ c.toNat ≠ 0x46

instance : DecidablePred IsNameCharacter :=
  fun c => inferInstanceAs (Decidable (c.toNat = 0x20 ∨ c.toNat = 0x5f ∨ _))

section Characters

variable {c x : Char}

theorem toNat_toUpper_of_lower (hfirst : 0x61 ≤ c.toNat) (hlast : c.toNat ≤ 0x7a) :
    c.toUpper.toNat = c.toNat - 32 := by
  have hlower : 'a'.val ≤ c.val ∧ c.val ≤ 'z'.val := ⟨hfirst, hlast⟩
  have hupper : c.toUpper = ⟨c.val + ('A'.val - 'a'.val), _⟩ := dif_pos hlower
  have hdistance : ('A'.val - 'a'.val).toNat = 4294967264 := rfl
  -- the distance is negative, so that the sum wraps
  have hsum : c.toUpper.toNat = (c.toNat + 4294967264) % 4294967296 := by
    rw [← hdistance]
    exact (congrArg Char.toNat hupper).trans (UInt32.toNat_add _ _)
  omega

theorem toUpper_of_not_lower (hnot : ¬ (0x61 ≤ c.toNat ∧ c.toNat ≤ 0x7a)) : c.toUpper = c :=
  dif_neg hnot

theorem IsNameCharacter.toUpper (hname : IsNameCharacter c) : c.toUpper = c := by
  apply toUpper_of_not_lower
  unfold IsNameCharacter at hname
  omega

/-- A code that gives a character of names is the code of that character. -/
theorem IsNameCharacter.toNat_ofNat {code : Nat} (hname : IsNameCharacter (Char.ofNat code)) :
    (Char.ofNat code).toNat = code := by
  by_cases hvalid : code.isValidChar
  · rw [Char.ofNat, dif_pos hvalid]
    rfl
  · -- such a code gives the character zero, which no name has
    rw [Char.ofNat, dif_neg hvalid] at hname
    exact absurd hname (by decide)

end Characters

section Table

theorem le_caseExpansions : ∀ entry ∈ caseExpansions, 0x80 ≤ entry.1 := by
  decide

/-- The expansions that can be part of a name. -/
theorem caseExpansions_named :
    ∀ entry ∈ caseExpansions, (∀ code ∈ entry.2, IsNameCharacter (Char.ofNat code)) →
      entry ∈ [(0xdf, [0x53, 0x53]), (0xfb05, [0x53, 0x54]), (0xfb06, [0x53, 0x54])] := by
  decide

set_option maxRecDepth 2000 in
/-- The runs that begin in ASCII or whose capitals do. -/
theorem caseRuns_ascii :
    ∀ run ∈ caseRuns, run.first < 0x80 ∨ run.first + run.distance < 0x80 →
      (run.first, run.last, run.distance) ∈
        [(0x61, 0x7a, -32), (0x131, 0x131, -232), (0x17f, 0x17f, -300)] := by
  decide

theorem covers_iff {run : CaseRun} {code : Nat} : run.covers code = true ↔
    run.first ≤ code ∧ code ≤ run.last ∧ (code - run.first) % run.step = 0 := by
  simp [CaseRun.covers, and_assoc]

/-- Where the table has the capital form of a character from. -/
theorem capital_cases (c : Char) :
    (∃ spelling, (c.toNat, spelling) ∈ caseExpansions ∧ capital c = spelling.map Char.ofNat) ∨
      (∃ run ∈ caseRuns, run.covers c.toNat = true ∧
        capital c = [Char.ofNat (c.toNat + run.distance).toNat]) ∨
      (∀ run ∈ caseRuns, ¬ run.covers c.toNat = true) ∧ capital c = [c] := by
  unfold capital
  split
  · next spelling hlookup =>
    obtain ⟨before, after, hsplit, -⟩ := List.lookup_eq_some_iff.1 hlookup
    exact .inl ⟨spelling, by simp [hsplit], rfl⟩
  · split
    · next run hfind =>
      have hcovers := List.find?_some hfind
      exact .inr (.inl ⟨run, List.mem_of_find?_eq_some hfind, hcovers, rfl⟩)
    · next hfind => exact .inr (.inr ⟨List.find?_eq_none.1 hfind, rfl⟩)

/-- Within ASCII the table gives the usual capitals. -/
theorem capital_of_ascii {c : Char} (hascii : c.toNat < 0x80) : capital c = [c.toUpper] := by
  obtain ⟨spelling, hentry, -⟩ | ⟨run, hrun, hcovers, hcapital⟩ | ⟨hnone, hcapital⟩ :=
    capital_cases c
  · have hle := le_caseExpansions _ hentry
    omega
  · obtain ⟨hfirst, hlast, -⟩ := covers_iff.1 hcovers
    have hrow := caseRuns_ascii run hrun (.inl (by omega))
    simp only [List.mem_cons, Prod.mk.injEq, List.not_mem_nil, or_false] at hrow
    have hupper := toNat_toUpper_of_lower (c := c) (by omega) (by omega)
    have hcode : (c.toNat + run.distance).toNat = c.toUpper.toNat := by omega
    rw [hcapital, hcode, Char.ofNat_toNat]
  · have hnot : ¬ (0x61 ≤ c.toNat ∧ c.toNat ≤ 0x7a) := by
      intro hlower
      have hletters : ⟨0x61, 0x7a, 1, -32⟩ ∈ caseRuns := List.mem_cons_self
      exact hnone _ hletters (covers_iff.2 ⟨hlower.1, hlower.2, Nat.mod_one _⟩)
    rw [hcapital, toUpper_of_not_lower hnot]

theorem capital_of_standsFor {c x : Char} (hstands : StandsFor c x) (hname : IsNameCharacter x) :
    capital c = [x] := by
  cases hstands with
  | cased =>
    apply capital_of_ascii
    by_cases hlower : 0x61 ≤ c.toNat ∧ c.toNat ≤ 0x7a
    · omega
    · rw [toUpper_of_not_lower hlower, IsNameCharacter] at hname
      omega
  | longS => decide
  | dotlessI => decide

/-- A character whose capital form can be part of a name is one that spells a part of a name. -/
theorem capital_named {c : Char} (hname : ∀ x ∈ capital c, IsNameCharacter x) :
    (∃ x, StandsFor c x ∧ capital c = [x]) ∨ (c = 'ß' ∧ capital c = ['S', 'S']) ∨
      ((c = 'ﬅ' ∨ c = 'ﬆ') ∧ capital c = ['S', 'T']) := by
  obtain ⟨spelling, hentry, hcapital⟩ | ⟨run, hrun, hcovers, hcapital⟩ | ⟨-, hcapital⟩ :=
    capital_cases c
  · rw [hcapital] at hname ⊢
    have hrow := caseExpansions_named _ hentry fun code hcode =>
      hname _ (List.mem_map_of_mem hcode)
    simp only [List.mem_cons, Prod.mk.injEq, List.not_mem_nil, or_false] at hrow
    obtain ⟨hcode, rfl⟩ | ⟨hcode, rfl⟩ | ⟨hcode, rfl⟩ := hrow
    · exact .inr (.inl ⟨Char.toNat_inj.1 hcode, rfl⟩)
    · exact .inr (.inr ⟨.inl (Char.toNat_inj.1 hcode), rfl⟩)
    · exact .inr (.inr ⟨.inr (Char.toNat_inj.1 hcode), rfl⟩)
  · obtain ⟨hfirst, hlast, -⟩ := covers_iff.1 hcovers
    have hx := hname _ (hcapital ▸ List.mem_singleton_self _)
    have hcode := hx.toNat_ofNat
    unfold IsNameCharacter at hx
    have hrow := caseRuns_ascii run hrun (.inr (by omega))
    simp only [List.mem_cons, Prod.mk.injEq, List.not_mem_nil, or_false] at hrow
    left
    obtain ⟨hf, hl, hd⟩ | ⟨hf, hl, hd⟩ | ⟨hf, hl, hd⟩ := hrow
    · have hascii : c.toNat < 0x80 := by omega
      exact ⟨c.toUpper, .cased c, capital_of_ascii hascii⟩
    · have hc : c = 'ı' := Char.toNat_inj.1 (show c.toNat = 0x131 by omega)
      exact ⟨'I', hc ▸ .dotlessI, hc ▸ by decide⟩
    · have hc : c = 'ſ' := Char.toNat_inj.1 (show c.toNat = 0x17f by omega)
      exact ⟨'S', hc ▸ .longS, hc ▸ by decide⟩
  · have hx := hname c (hcapital ▸ List.mem_singleton_self c)
    have hcased := StandsFor.cased c
    rw [hx.toUpper] at hcased
    exact .inl ⟨c, hcased, hcapital⟩

end Table

section Texts

variable {text name : List Char}

theorem capitals_cons (c : Char) (text : List Char) :
    capitals (c :: text) = capital c ++ capitals text := rfl

theorem spells_of_capitals (hcharacters : ∀ x ∈ name, IsNameCharacter x)
    (hcapitals : capitals text = name) : Spells text name := by
  induction text generalizing name with
  | nil =>
    subst hcapitals
    exact .nil
  | cons c text ih =>
    rw [capitals_cons] at hcapitals
    subst hcapitals
    have hrest : Spells text (capitals text) :=
      ih (fun x hx => hcharacters x (List.mem_append_right _ hx)) rfl
    obtain ⟨x, hstands, hcapital⟩ | ⟨rfl, hcapital⟩ | ⟨hligature, hcapital⟩ :=
      capital_named fun x hx => hcharacters x (List.mem_append_left _ hx)
    · rw [hcapital]
      exact .letter hstands hrest
    · rw [hcapital]
      exact .sharpS hrest
    · rw [hcapital]
      exact .ligature hligature hrest

theorem capitals_of_spells (hspells : Spells text name)
    (hcharacters : ∀ x ∈ name, IsNameCharacter x) : capitals text = name := by
  induction hspells with
  | nil => rfl
  | @letter c x text name hstands hrest ih =>
    have hcapital := capital_of_standsFor hstands (hcharacters x List.mem_cons_self)
    have hbehind := ih fun y hy => hcharacters y (List.mem_cons_of_mem _ hy)
    rw [capitals_cons, hcapital, hbehind]
    rfl
  | @sharpS text name hrest ih =>
    have hcapital : capital 'ß' = ['S', 'S'] := by decide
    have hbehind := ih fun y hy => hcharacters y (by simp [hy])
    rw [capitals_cons, hcapital, hbehind]
    rfl
  | @ligature c text name hligature hrest ih =>
    have hcapital : capital c = ['S', 'T'] := by
      obtain rfl | rfl := hligature <;> decide
    have hbehind := ih fun y hy => hcharacters y (by simp [hy])
    rw [capitals_cons, hcapital, hbehind]
    rfl

/-- The spellings of a name are the texts whose capital form it is. -/
theorem capitals_eq_iff (hcharacters : ∀ x ∈ name, IsNameCharacter x) :
    capitals text = name ↔ Spells text name :=
  ⟨spells_of_capitals hcharacters, fun hspells => capitals_of_spells hspells hcharacters⟩

end Texts

end TxClient.Text
