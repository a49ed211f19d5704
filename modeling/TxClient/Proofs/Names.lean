import TxClient.Concurrency
import TxClient.Isolation
import TxClient.Proofs.Text.Blank
import TxClient.Proofs.Text.Spelling
import TxClient.State

/-!
Modes and levels by name. A text is taken exactly if it spells one of the names, blanks around
it apart, and for what the name stands for; the complaint about any other text repeats it.
By number, modes, levels and states are read exactly as they are written.
-/

namespace TxClient

/-- The text spells the name between blanks. -/
def Names (text name : String) : Prop :=
  ∃ core, Text.IsCoreOf core text.toList ∧ Text.Spells core name.toList

inductive Concurrency.IsName : Concurrency → String → Prop where
  | optimistic : IsName .optimistic "OPTIMISTIC"
  | pessimistic : IsName .pessimistic "PESSIMISTIC"

/-- What may stand between the two words of a name. -/
def Isolation.gaps : List String :=
  [" ", "_", ""]

inductive Isolation.IsName : Isolation → String → Prop where
  | readCommitted {gap : String} (hgap : gap ∈ gaps) :
      IsName .readCommitted ("READ" ++ gap ++ "COMMITTED")
  | repeatableRead {gap : String} (hgap : gap ∈ gaps) :
      IsName .repeatableRead ("REPEATABLE" ++ gap ++ "READ")
  | serializable : IsName .serializable "SERIALIZABLE"

/-- What is read is exactly what texts name, and a text that names nothing is repeated behind
the complaint as it was given. -/
structure ReadsNames {α : Type} (IsName : α → String → Prop) (complaint : String)
    (read : String → Except UnknownName α) : Prop where
  read_eq_ok_iff (text : String) (value : α) :
    read text = .ok value ↔ ∃ name, IsName value name ∧ Names text name
  read_eq_error (text : String) (hunknown : ∀ value name, IsName value name → ¬ Names text name) :
    ∃ unknown, read text = .error unknown ∧ unknown.message = complaint ++ text

section Tables

variable {α : Type} {names : List (String × α)}

/-- No name stands for two things, and the names are in capital letters. -/
structure AreNames (names : List (String × α)) : Prop where
  nodup : (names.map Prod.fst).Nodup
  characters : ∀ name ∈ names.map Prod.fst, ∀ c ∈ name.toList, Text.IsNameCharacter c

theorem names_iff {text name : String} (hname : ∀ c ∈ name.toList, Text.IsNameCharacter c) :
    Names text name ↔ String.ofList (Text.capitals (Text.trim text.toList)) = name := by
  have hcapitals : String.ofList (Text.capitals (Text.trim text.toList)) = name ↔
      Text.Spells (Text.trim text.toList) name.toList := by
    rw [← Text.capitals_eq_iff hname, ← String.toList_inj, String.toList_ofList]
  simp [hcapitals, Names, Text.isCoreOf_iff]

theorem lookup_eq_some_iff_of_nodup (hnodup : (names.map Prod.fst).Nodup) {name : String}
    {value : α} : names.lookup name = some value ↔ (name, value) ∈ names := by
  rw [List.lookup_eq_some_iff]
  constructor
  · rintro ⟨before, after, rfl, -⟩
    simp
  · intro hmem
    obtain ⟨before, after, rfl⟩ := List.append_of_mem hmem
    rw [List.map_append, List.nodup_append] at hnodup
    refine ⟨before, after, rfl, fun entry hentry => bne_iff_ne.2 ?_⟩
    exact (hnodup.2.2 _ (List.mem_map_of_mem hentry) _ List.mem_cons_self).symm

/-- What a text stands for by a table of names. -/
def named? (names : List (String × α)) (text : String) : Option α :=
  names.lookup (String.ofList (Text.capitals (Text.trim text.toList)))

theorem AreNames.named?_eq_some_iff (hnames : AreNames names) {text : String} {value : α} :
    named? names text = some value ↔ ∃ name, (name, value) ∈ names ∧ Names text name := by
  rw [named?, lookup_eq_some_iff_of_nodup hnames.nodup]
  constructor
  · intro hmem
    have hcharacters := hnames.characters _ (List.mem_map_of_mem hmem)
    exact ⟨_, hmem, (names_iff hcharacters).2 rfl⟩
  · rintro ⟨name, hmem, hnamed⟩
    have hcharacters := hnames.characters _ (List.mem_map_of_mem hmem)
    rwa [(names_iff hcharacters).1 hnamed]

/-- Reading by a table of names. -/
def readName (names : List (String × α)) (subject text : String) : Except UnknownName α :=
  match named? names text with
  | some value => .ok value
  | none => .error ⟨subject, text⟩

theorem AreNames.readsNames (hnames : AreNames names) {IsName : α → String → Prop}
    (hIsName : ∀ value name, IsName value name ↔ (name, value) ∈ names) (subject : String) :
    ReadsNames IsName ("unknown " ++ subject ++ ": ") (readName names subject) := by
  have hnamed (text : String) (value : α) :
      named? names text = some value ↔ ∃ name, IsName value name ∧ Names text name := by
    rw [hnames.named?_eq_some_iff]
    simp only [hIsName]
  constructor
  · intro text value
    rw [← hnamed, readName]
    cases named? names text <;> simp
  · intro text hunknown
    refine ⟨⟨subject, text⟩, ?_, rfl⟩
    rw [readName]
    cases hvalue : named? names text with
    | none => rfl
    | some value =>
      obtain ⟨name, hname, hspelled⟩ := (hnamed text value).1 hvalue
      exact absurd hspelled (hunknown value name hname)

end Tables

theorem Concurrency.areNames : AreNames Concurrency.names :=
  ⟨by decide, by simp [names, Text.IsNameCharacter]⟩

theorem Isolation.areNames : AreNames Isolation.names :=
  ⟨by decide, by simp [names, Text.IsNameCharacter]⟩

theorem Concurrency.isName_iff (mode : Concurrency) (name : String) :
    IsName mode name ↔ (name, mode) ∈ names := by
  constructor
  · rintro (_ | _) <;> decide
  · intro hmem
    simp only [names, List.mem_cons, Prod.mk.injEq, List.not_mem_nil, or_false] at hmem
    obtain ⟨rfl, rfl⟩ | ⟨rfl, rfl⟩ := hmem
    · exact .optimistic
    · exact .pessimistic

theorem Isolation.isName_iff (level : Isolation) (name : String) :
    IsName level name ↔ (name, level) ∈ names := by
  constructor
  · have hcommitted : ∀ gap ∈ gaps, ("READ" ++ gap ++ "COMMITTED", readCommitted) ∈ names := by
      decide
    have hrepeatable : ∀ gap ∈ gaps, ("REPEATABLE" ++ gap ++ "READ", repeatableRead) ∈ names := by
      decide
    intro hname
    cases hname with
    | readCommitted hgap => exact hcommitted _ hgap
    | repeatableRead hgap => exact hrepeatable _ hgap
    | serializable => decide
  · have hrows : ∀ row ∈ names,
        row.2 = readCommitted ∧ (∃ gap ∈ gaps, row.1 = "READ" ++ gap ++ "COMMITTED") ∨
          row.2 = repeatableRead ∧ (∃ gap ∈ gaps, row.1 = "REPEATABLE" ++ gap ++ "READ") ∨
            row = ("SERIALIZABLE", serializable) := by
      decide
    intro hmem
    obtain ⟨rfl, gap, hgap, rfl⟩ | ⟨rfl, gap, hgap, rfl⟩ | hrow := hrows _ hmem
    · exact .readCommitted hgap
    · exact .repeatableRead hgap
    · obtain ⟨rfl, rfl⟩ := Prod.mk.inj hrow
      exact .serializable

theorem Concurrency.ofText_eq (text : String) :
    ofText text = readName names "concurrency mode" text := by
  unfold ofText readName named?
  -- Both sides look the same text up; evaluating the table for it gets nowhere.
  generalize names.lookup _ = mode?
  cases mode? <;> rfl

theorem Isolation.ofText_eq (text : String) :
    ofText text = readName names "isolation level" text := by
  unfold ofText readName named?
  generalize names.lookup _ = level?
  cases level? <;> rfl

/-- Of all texts, exactly the spellings of the names are taken, and each for what its name
stands for. -/
theorem names_read_exactly :
    ReadsNames Concurrency.IsName "unknown concurrency mode: " Concurrency.ofText ∧
      ReadsNames Isolation.IsName "unknown isolation level: " Isolation.ofText := by
  have hmode : "unknown concurrency mode: " = "unknown " ++ "concurrency mode" ++ ": " := by decide
  have hlevel : "unknown isolation level: " = "unknown " ++ "isolation level" ++ ": " := by decide
  constructor
  · rw [hmode, funext Concurrency.ofText_eq]
    exact Concurrency.areNames.readsNames Concurrency.isName_iff "concurrency mode"
  · rw [hlevel, funext Isolation.ofText_eq]
    exact Isolation.areNames.readsNames Isolation.isName_iff "isolation level"

example : Isolation.ofText " ſerıalizable\u2003" = .ok .serializable := rfl

/-- Every value is read from its own number, and from no other number. -/
def ReadsOrdinals {α : Type} (ordinal : α → Int32) (ofOrdinal? : Int32 → Option α) : Prop :=
  ∀ n value, ofOrdinal? n = some value ↔ ordinal value = n

theorem Concurrency.readsOrdinals : ReadsOrdinals ordinal ofOrdinal? := by
  intro n mode
  constructor
  · unfold ofOrdinal?
    split <;> rintro ⟨⟩ <;> rfl
  · rintro rfl
    cases mode <;> rfl

theorem Isolation.readsOrdinals : ReadsOrdinals ordinal ofOrdinal? := by
  intro n level
  constructor
  · unfold ofOrdinal?
    split <;> rintro ⟨⟩ <;> rfl
  · rintro rfl
    cases level <;> rfl

theorem TxState.readsOrdinals : ReadsOrdinals ordinal ofOrdinal? := by
  intro n state
  constructor
  · unfold ofOrdinal?
    split <;> rintro ⟨⟩ <;> rfl
  · rintro rfl
    cases state <;> rfl

end TxClient
