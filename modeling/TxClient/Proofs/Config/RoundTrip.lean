import TxClient.Proofs.Config.Decoding
import TxClient.Proofs.Json.Writer

/-!
A configuration is read back from what is written of it, so that configurations are told apart by
what is written of them.
-/

namespace TxClient.Config

theorem arePlain_concurrency (mode : Concurrency) : Json.ArePlain (Labelled.label mode).toList := by
  cases mode <;> decide

theorem arePlain_isolation (level : Isolation) : Json.ArePlain (Labelled.label level).toList := by
  cases level <;> decide

/-- What is written of a configuration, member by member. -/
def entries (config : Config) : List Json.Entry :=
  [⟨"default_concurrency", Json.writeLabel config.defaultConcurrency,
      .text (Labelled.label config.defaultConcurrency), by decide,
      Json.spells_writeLabel (arePlain_concurrency _)⟩,
    ⟨"default_isolation", Json.writeLabel config.defaultIsolation,
      .text (Labelled.label config.defaultIsolation), by decide,
      Json.spells_writeLabel (arePlain_isolation _)⟩,
    ⟨"default_timeout_ms", Json.writeNumber config.defaultTimeoutMs.toNat,
      .number (.ofNat config.defaultTimeoutMs.toNat), by decide, Json.spells_writeNumber _⟩,
    ⟨"default_tx_size", Json.writeNumber config.defaultTxSize.toNat,
      .number (.ofNat config.defaultTxSize.toNat), by decide, Json.spells_writeNumber _⟩]

def members (config : Config) : List (String × Json.Value) :=
  [("default_concurrency", .text (Labelled.label config.defaultConcurrency)),
    ("default_isolation", .text (Labelled.label config.defaultIsolation)),
    ("default_timeout_ms", .number (.ofNat config.defaultTimeoutMs.toNat)),
    ("default_tx_size", .number (.ofNat config.defaultTxSize.toNat))]

theorem document_toJson (config : Config) :
    Json.Document config.toJson (.object config.members) :=
  Json.document_writeObject config.entries

/-- All four fields are given, so that nothing is left of the standard configuration. -/
theorem collects_members (config : Config) :
    Json.Collects shape Means [] standard config.members config := by
  refine .known (knows_iff.2 (by decide)) (by decide) (.inl ⟨rfl, _, .inl rfl, rfl⟩) ?_
  refine .known (knows_iff.2 (by decide)) (by decide) (.inr (.inl ⟨rfl, _, .inl rfl, rfl⟩)) ?_
  refine .known (knows_iff.2 (by decide)) (by decide)
    (.inr (.inr (.inl ⟨rfl, _, Json.Literal.natural?_ofNat _, rfl⟩))) ?_
  refine .known (knows_iff.2 (by decide)) (by decide)
    (.inr (.inr (.inr ⟨rfl, _, Json.Literal.natural?_ofNat _, rfl⟩))) ?_
  exact .done fun name hname => absurd hname List.not_mem_nil

theorem ofJson_toJson (config : Config) : ofJson config.toJson = .ok config :=
  (ofJson_eq_ok_iff config.document_toJson).2 (givenBy_of_collects config.collects_members)

/-- Whatever a configuration holds, and however it came to hold it, it is read back from what is
written of it, and no other configuration is written in the same way. -/
theorem toJson_faithful :
    (∀ config : Config, ofJson config.toJson = .ok config) ∧
      ∀ config other : Config, config ≠ other → config.toJson ≠ other.toJson := by
  refine ⟨ofJson_toJson, fun config other hne hsame => hne ?_⟩
  have hread : ofJson config.toJson = .ok other := by
    rw [hsame, ofJson_toJson]
  exact Except.ok.inj ((ofJson_toJson config).symm.trans hread)

end TxClient.Config
