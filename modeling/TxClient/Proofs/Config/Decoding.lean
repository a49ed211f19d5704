import TxClient.Config.Json
import TxClient.Proofs.Json.Record
import TxClient.Proofs.Json.Writer

/-!
Which texts give a configuration, and which one. An object gives a configuration exactly if each
of the four keys comes at most once, with a value that may stand there; the members that are
given replace the defaults, and nothing else in the object matters.
-/

namespace TxClient.Config

open Json (Value Document Sets keys named)

/-- The keys that a configuration has. -/
def knownKeys : List String :=
  ["default_concurrency", "default_isolation", "default_timeout_ms", "default_tx_size"]

section Meaning

/-- The name that a mode has in a configuration. -/
def modeName : Concurrency → String
  | .optimistic => "OPTIMISTIC"
  | .pessimistic => "PESSIMISTIC"

/-- The name that a level has in a configuration. -/
def levelName : Isolation → String
  | .readCommitted => "READ_COMMITTED"
  | .repeatableRead => "REPEATABLE_READ"
  | .serializable => "SERIALIZABLE"

def NamesMode (value : Value) (mode : Concurrency) : Prop :=
  value.IsName (modeName mode)

def NamesLevel (value : Value) (level : Isolation) : Prop :=
  value.IsName (levelName level)

theorem namesMode_iff {value : Value} {mode : Concurrency} :
    value.Names mode ↔ NamesMode value mode := by
  cases mode <;> rfl

theorem namesLevel_iff {value : Value} {level : Isolation} :
    value.Names level ↔ NamesLevel value level := by
  cases level <;> rfl

/-- What a member of a configuration does to it. -/
def Means (key : String) (value : Value) (update : Config → Config) : Prop :=
  (key = "default_concurrency" ∧ ∃ mode, NamesMode value mode ∧
      (fun config => { config with defaultConcurrency := mode }) = update) ∨
    (key = "default_isolation" ∧ ∃ level, NamesLevel value level ∧
      (fun config => { config with defaultIsolation := level }) = update) ∨
    (key = "default_timeout_ms" ∧ ∃ millis, Json.SpellsWord value millis ∧
      (fun config => { config with defaultTimeoutMs := millis }) = update) ∨
    (key = "default_tx_size" ∧ ∃ size, Json.SpellsWord value size ∧
      (fun config => { config with defaultTxSize := size }) = update)

theorem labelsFound_concurrency : Json.LabelsFound Concurrency := by
  intro mode
  cases mode <;> rfl

theorem labelsFound_isolation : Json.LabelsFound Isolation := by
  intro level
  cases level <;> rfl

theorem knows_iff {key : String} : shape.Knows key ↔ key ∈ knownKeys := by
  simp [Json.Shape.Knows, shape, Json.Field.of, knownKeys, eq_comm]

theorem shape_takes : shape.Takes Means := by
  intro field hmem
  simp only [shape, List.mem_cons, List.not_mem_nil, or_false] at hmem
  rcases hmem with rfl | rfl | rfl | rfl
  · refine (Json.takes_readLabelled labelsFound_concurrency).map fun value update => ?_
    simp [Means, Json.Field.of, namesMode_iff]
  · refine (Json.takes_readLabelled labelsFound_isolation).map fun value update => ?_
    simp [Means, Json.Field.of, namesLevel_iff]
  · refine (Json.takes_readUnsigned (Nat.le_refl 64)).map fun value update => ?_
    refine Iff.trans ?_ (Json.exists_spellsWord_iff (p := fun millis =>
      (fun config : Config => { config with defaultTimeoutMs := millis }) = update))
    simp [Means, Json.Field.of]
  · refine (Json.takes_readUnsigned (by decide : 32 ≤ 64)).map fun value update => ?_
    refine Iff.trans ?_ (Json.exists_spellsWord_iff (p := fun size =>
      (fun config : Config => { config with defaultTxSize := size }) = update))
    simp [Means, Json.Field.of]

end Meaning

section Slots

theorem slot_concurrency :
    Json.Slot shape Means "default_concurrency" NamesMode defaultConcurrency where
  known := knows_iff.2 (by decide)
  own := by
    intro value update hmeans
    obtain ⟨mode, hnames, rfl⟩ : ∃ mode, NamesMode value mode ∧ _ = update := by
      simpa [Means] using hmeans
    exact ⟨mode, hnames, fun _ => rfl⟩
  other := by
    rintro key value update
      (⟨rfl, _⟩ | ⟨rfl, _, _, rfl⟩ | ⟨rfl, _, _, rfl⟩ | ⟨rfl, _, _, rfl⟩) hne config
    · exact absurd rfl hne
    all_goals rfl

theorem slot_isolation :
    Json.Slot shape Means "default_isolation" NamesLevel defaultIsolation where
  known := knows_iff.2 (by decide)
  own := by
    intro value update hmeans
    obtain ⟨level, hnames, rfl⟩ : ∃ level, NamesLevel value level ∧ _ = update := by
      simpa [Means] using hmeans
    exact ⟨level, hnames, fun _ => rfl⟩
  other := by
    rintro key value update
      (⟨rfl, _, _, rfl⟩ | ⟨rfl, _⟩ | ⟨rfl, _, _, rfl⟩ | ⟨rfl, _, _, rfl⟩) hne config
    case inr.inl => exact absurd rfl hne
    all_goals rfl

theorem slot_timeoutMs :
    Json.Slot shape Means "default_timeout_ms" Json.SpellsWord defaultTimeoutMs where
  known := knows_iff.2 (by decide)
  own := by
    intro value update hmeans
    obtain ⟨millis, hspells, rfl⟩ : ∃ millis, Json.SpellsWord value millis ∧ _ = update := by
      simpa [Means] using hmeans
    exact ⟨millis, hspells, fun _ => rfl⟩
  other := by
    rintro key value update
      (⟨rfl, _, _, rfl⟩ | ⟨rfl, _, _, rfl⟩ | ⟨rfl, _⟩ | ⟨rfl, _, _, rfl⟩) hne config
    case inr.inr.inl => exact absurd rfl hne
    all_goals rfl

theorem slot_txSize :
    Json.Slot shape Means "default_tx_size" Json.SpellsWord defaultTxSize where
  known := knows_iff.2 (by decide)
  own := by
    intro value update hmeans
    obtain ⟨size, hspells, rfl⟩ : ∃ size, Json.SpellsWord value size ∧ _ = update := by
      simpa [Means] using hmeans
    exact ⟨size, hspells, fun _ => rfl⟩
  other := by
    rintro key value update
      (⟨rfl, _, _, rfl⟩ | ⟨rfl, _, _, rfl⟩ | ⟨rfl, _, _, rfl⟩ | ⟨rfl, _⟩) hne config
    case inr.inr.inr => exact absurd rfl hne
    all_goals rfl

end Slots

section Objects

variable {members others : List (String × Value)} {config other : Config}

/-- The members of an object that gives a configuration: each known key at most once, and a value
behind it that may stand there. -/
structure Admissible (members : List (String × Value)) : Prop where
  once : ∀ key ∈ knownKeys, (keys members).count key ≤ 1
  concurrency : ∀ value, ("default_concurrency", value) ∈ members →
    ∃ mode, NamesMode value mode
  isolation : ∀ value, ("default_isolation", value) ∈ members →
    ∃ level, NamesLevel value level
  timeoutMs : ∀ value, ("default_timeout_ms", value) ∈ members → ∃ n, Json.MeansUnsigned 64 value n
  txSize : ∀ value, ("default_tx_size", value) ∈ members → ∃ n, Json.MeansUnsigned 32 value n

/-- The configuration is the standard one with what the members give in its place. -/
structure GivenBy (members : List (String × Value)) (config : Config) : Prop where
  concurrency : Sets "default_concurrency" NamesMode standard.defaultConcurrency
    config.defaultConcurrency members
  isolation : Sets "default_isolation" NamesLevel standard.defaultIsolation config.defaultIsolation
    members
  timeoutMs : Sets "default_timeout_ms" Json.SpellsWord standard.defaultTimeoutMs
    config.defaultTimeoutMs members
  txSize : Sets "default_tx_size" Json.SpellsWord standard.defaultTxSize config.defaultTxSize
    members

theorem givenBy_of_collects (hcollects : Json.Collects shape Means [] standard members config) :
    GivenBy members config where
  concurrency := hcollects.sets slot_concurrency
  isolation := hcollects.sets slot_isolation
  timeoutMs := hcollects.sets slot_timeoutMs
  txSize := hcollects.sets slot_txSize

theorem GivenBy.admissible (hgiven : GivenBy members config) : Admissible members where
  once := by
    intro key hkey
    simp only [knownKeys, List.mem_cons, List.not_mem_nil, or_false] at hkey
    rcases hkey with rfl | rfl | rfl | rfl
    · exact hgiven.concurrency.once
    · exact hgiven.isolation.once
    · exact hgiven.timeoutMs.once
    · exact hgiven.txSize.once
  concurrency value hmem := ⟨_, hgiven.concurrency.given value hmem⟩
  isolation value hmem := ⟨_, hgiven.isolation.given value hmem⟩
  timeoutMs value hmem := ⟨_, (hgiven.timeoutMs.given value hmem).meansUnsigned⟩
  txSize value hmem := ⟨_, (hgiven.txSize.given value hmem).meansUnsigned⟩

theorem GivenBy.unique (hconfig : GivenBy members config) (hother : GivenBy members other) :
    config = other := by
  have hconcurrency := hconfig.concurrency.unique hother.concurrency fun _ hfirst hsecond =>
    Value.Names.unique labelsFound_concurrency (namesMode_iff.2 hfirst) (namesMode_iff.2 hsecond)
  have hisolation := hconfig.isolation.unique hother.isolation fun _ hfirst hsecond =>
    Value.Names.unique labelsFound_isolation (namesLevel_iff.2 hfirst) (namesLevel_iff.2 hsecond)
  have htimeout := hconfig.timeoutMs.unique hother.timeoutMs fun _ => Json.SpellsWord.unique
  have hsize := hconfig.txSize.unique hother.txSize fun _ => Json.SpellsWord.unique
  cases config
  cases other
  simp_all

theorem Admissible.exists_means (hadmissible : Admissible members) {key : String} {value : Value}
    (hkey : key ∈ knownKeys) (hmem : (key, value) ∈ members) :
    ∃ update, Means key value update := by
  simp only [knownKeys, List.mem_cons, List.not_mem_nil, or_false] at hkey
  rcases hkey with rfl | rfl | rfl | rfl
  · obtain ⟨mode, hnames⟩ := hadmissible.concurrency value hmem
    exact ⟨_, .inl ⟨rfl, mode, hnames, rfl⟩⟩
  · obtain ⟨level, hnames⟩ := hadmissible.isolation value hmem
    exact ⟨_, .inr (.inl ⟨rfl, level, hnames, rfl⟩)⟩
  · obtain ⟨n, hmeans⟩ := hadmissible.timeoutMs value hmem
    exact ⟨_, .inr (.inr (.inl ⟨rfl, _, hmeans.spellsWord, rfl⟩))⟩
  · obtain ⟨n, hmeans⟩ := hadmissible.txSize value hmem
    exact ⟨_, .inr (.inr (.inr ⟨rfl, _, hmeans.spellsWord, rfl⟩))⟩

theorem Admissible.collectable (hadmissible : Admissible members) :
    Json.Collectable shape Means [] members where
  once key hkey := hadmissible.once key (knows_iff.1 hkey)
  fresh _ _ hseen := absurd hseen List.not_mem_nil
  meaningful _ _ hkey hmem := hadmissible.exists_means (knows_iff.1 hkey) hmem
  required _ hname := absurd hname List.not_mem_nil

theorem collects_iff :
    Json.Collects shape Means [] standard members config ↔ GivenBy members config := by
  constructor
  · exact givenBy_of_collects
  · intro hgiven
    obtain ⟨other, hcollects⟩ := hgiven.admissible.collectable.exists_collects standard
    rwa [hgiven.unique (givenBy_of_collects hcollects)]

theorem admissible_iff : Admissible members ↔ ∃ config, GivenBy members config := by
  constructor
  · intro hadmissible
    obtain ⟨config, hcollects⟩ := hadmissible.collectable.exists_collects standard
    exact ⟨config, givenBy_of_collects hcollects⟩
  · rintro ⟨config, hgiven⟩
    exact hgiven.admissible

theorem GivenBy.of_perm (hperm : (named knownKeys members).Perm (named knownKeys others))
    (hgiven : GivenBy members config) : GivenBy others config where
  concurrency := hgiven.concurrency.of_perm (by decide) hperm
  isolation := hgiven.isolation.of_perm (by decide) hperm
  timeoutMs := hgiven.timeoutMs.of_perm (by decide) hperm
  txSize := hgiven.txSize.of_perm (by decide) hperm

theorem mapError_eq_ok_iff {ε δ α : Type} {f : ε → δ} {result : Except ε α} {value : α} :
    result.mapError f = .ok value ↔ result = .ok value := by
  cases result <;> constructor <;> intro hok <;> cases hok <;> rfl

theorem ofJson_eq_ok_iff {text : String} (htext : Document text (.object members)) :
    ofJson text = .ok config ↔ GivenBy members config := by
  have hparse : Json.parse (Json.readRecord shape) text = .ok config ↔
      Json.Collects shape Means [] standard members config :=
    Json.parse_eq_ok_iff shape_takes htext
  rw [← collects_iff, ← hparse, ofJson]
  exact mapError_eq_ok_iff

theorem ofJson_ok_or_json (text : String) :
    (∃ config, ofJson text = .ok config) ∨ ∃ error, ofJson text = .error (.json error) := by
  rw [ofJson]
  cases Json.parse (Json.readRecord shape) text with
  | error error => exact .inr ⟨error, rfl⟩
  | ok config => exact .inl ⟨config, rfl⟩

/-- An object of any spelling gives a configuration exactly if its members are admissible. The
configuration is then settled by them: fields that are given are replaced, the others stay as they
are in the standard one, and neither the order of the members nor the members with other keys
matter. Every other object is refused for its notation. -/
theorem ofJson_exact {text : String} (htext : Document text (.object members)) :
    ((∃ config, ofJson text = .ok config) ↔ Admissible members) ∧
      (∀ config, ofJson text = .ok config ↔ GivenBy members config) ∧
      (¬ Admissible members → ∃ error, ofJson text = .error (.json error)) ∧
      ∀ otherText others, Document otherText (.object others) →
        (named knownKeys members).Perm (named knownKeys others) →
          ∀ config, ofJson text = .ok config ↔ ofJson otherText = .ok config := by
  have hadmissible : (∃ config, ofJson text = .ok config) ↔ Admissible members := by
    rw [admissible_iff]
    exact exists_congr fun config => ofJson_eq_ok_iff htext
  refine ⟨hadmissible, fun config => ofJson_eq_ok_iff htext, ?_, ?_⟩
  · intro hnot
    exact (ofJson_ok_or_json text).resolve_left fun hok => hnot (hadmissible.1 hok)
  · intro otherText others hother hperm config
    rw [ofJson_eq_ok_iff htext, ofJson_eq_ok_iff hother]
    exact ⟨.of_perm hperm, .of_perm hperm.symm⟩

end Objects

section Sample

/-- The largest timeout that can be given. -/
def largestTimeout : Json.Literal where
  negative := false
  whole := "18446744073709551615".toList
  fraction := []
  exponent? := none
  whole_ne_nil := by decide
  areDigits_whole := by decide
  whole_of_zero := by decide
  areDigits_fraction := by decide

/-- A name in either of its forms, an unknown member of some depth, and the largest timeout. -/
def sampleMembers : List (String × Value) :=
  [("default_isolation", .object [("SERIALIZABLE", .null)]), ("a", .array [.object []]),
    ("default_concurrency", .text "OPTIMISTIC"), ("default_timeout_ms", .number largestTimeout)]

def sampleText : String :=
  "\x7b\"default_isolation\":\x7b\"SERIALIZABLE\":null\x7d,\"a\": [\x7b\x7d]," ++
    "\"default_concurrency\":\"OPTIMISTIC\",\"default_timeout_ms\":18446744073709551615\n\x7d"

set_option maxRecDepth 1000 in
theorem document_sample : Document sampleText (.object sampleMembers) := by
  have hkey (key : String) (hplain : Json.ArePlain key.toList) :
      Json.SpellsKey (Json.writePlain key.toList ++ [':']) key := Json.spellsKey_writePlain hplain
  have hname : Json.Spells (Json.writePlain "OPTIMISTIC".toList) (.text "OPTIMISTIC") :=
    .text (Json.spellsText_writePlain (by decide))
  have hlevel : Json.Spells ('{' :: ((Json.writePlain "SERIALIZABLE".toList ++ [':']) ++
      ([] ++ (['n', 'u', 'l', 'l'] ++ [])) ++ ['}'])) (.object [("SERIALIZABLE", .null)]) :=
    .object (.last (hkey "SERIALIZABLE" (by decide)) Json.areBlanks_nil .null Json.areBlanks_nil)
  have hnested : Json.Spells ['[', '{', '}', ']'] (.array [.object []]) :=
    .array (.last Json.areBlanks_nil (.emptyObject Json.areBlanks_nil) Json.areBlanks_nil)
  have hspace : Json.AreBlanks [' '] := by simp [Json.AreBlanks]
  have hline : Json.AreBlanks ['\n'] := by simp [Json.AreBlanks]
  have htimeout := Json.SpellsMembers.last (hkey "default_timeout_ms" (by decide))
    Json.areBlanks_nil (.number largestTimeout) hline
  have hconcurrency := Json.SpellsMembers.more (hkey "default_concurrency" (by decide))
    Json.areBlanks_nil hname Json.areBlanks_nil htimeout
  have hunknown := Json.SpellsMembers.more (hkey "a" (by decide)) hspace hnested
    Json.areBlanks_nil hconcurrency
  have hinside := Json.SpellsMembers.more (hkey "default_isolation" (by decide))
    Json.areBlanks_nil hlevel Json.areBlanks_nil hunknown
  refine ⟨[], _, [], Json.areBlanks_nil, .object hinside, Json.areBlanks_nil, ?_⟩
  have htext : sampleText = String.ofList _ := String.ofList_append.symm
  rw [htext, String.toList_ofList]
  rfl

theorem givenBy_sample :
    GivenBy sampleMembers ⟨.optimistic, .serializable, 18446744073709551615, 0⟩ where
  concurrency := by
    refine (Json.sets_cons_other_iff (by decide)).2 ((Json.sets_cons_other_iff (by decide)).2 ?_)
    exact Json.sets_cons_iff.2 ⟨by decide, .inl rfl⟩
  isolation := Json.sets_cons_iff.2 ⟨by decide, .inr rfl⟩
  timeoutMs := by
    refine (Json.sets_cons_other_iff (by decide)).2 ((Json.sets_cons_other_iff (by decide)).2 ?_)
    exact (Json.sets_cons_other_iff (by decide)).2 (Json.sets_cons_iff.2 ⟨by decide, rfl⟩)
  txSize := (Json.sets_iff_of_not_mem (by decide)).2 rfl

/-- Either form of a name is read, and the largest timeout is kept as it is. -/
theorem ofJson_exact_of_largest :
    Document sampleText (.object sampleMembers) ∧
      ofJson sampleText = .ok ⟨.optimistic, .serializable, 18446744073709551615, 0⟩ :=
  ⟨document_sample, ((ofJson_exact document_sample).2.1 _).2 givenBy_sample⟩

end Sample

end TxClient.Config
