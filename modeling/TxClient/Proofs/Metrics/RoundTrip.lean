import TxClient.Metrics.Json
import TxClient.Proofs.Json.Record
import TxClient.Proofs.Json.Writer
import TxClient.Proofs.Time.Rfc3339

/-!
Metrics are read back from what is written of them. Every time that can be represented comes back
to the nanosecond, a leap second among them.
-/

namespace TxClient.Metrics

section Times

theorem arePlain_writeYear (year : Int) : Json.ArePlain (Rfc3339.writeYear year) := by
  unfold Rfc3339.writeYear
  split
  · exact Json.arePlain_of_areDigits (Text.areDigits_paddedNumeral _ _)
  · refine .cons ?_ (Json.arePlain_of_areDigits (Text.areDigits_widenedNumeral _ _))
    split <;> decide

theorem arePlain_writeFraction (nanos : Nat) : Json.ArePlain (Rfc3339.writeFraction nanos) := by
  unfold Rfc3339.writeFraction
  split
  · decide
  · split
    · exact .cons (by decide) (Json.arePlain_of_areDigits (Text.areDigits_paddedNumeral _ _))
    · split
      · exact .cons (by decide) (Json.arePlain_of_areDigits (Text.areDigits_paddedNumeral _ _))
      · exact .cons (by decide) (Json.arePlain_of_areDigits (Text.areDigits_paddedNumeral _ _))

theorem arePlain_write (time : Timestamp) : Json.ArePlain (Rfc3339.write time) := by
  have hdigits (width n : Nat) : Json.ArePlain (Text.paddedNumeral width n) :=
    Json.arePlain_of_areDigits (Text.areDigits_paddedNumeral width n)
  have hmarked {mark : Char} (hmark : Json.isPlain mark = true) (width n : Nat) :
      Json.ArePlain (mark :: Text.paddedNumeral width n) :=
    .cons hmark (hdigits width n)
  have hdate (date : Date) : Json.ArePlain (Rfc3339.writeDate date) :=
    .append (.append (arePlain_writeYear _) (hmarked rfl 2 _)) (hmarked rfl 2 _)
  have htime (secondOfDay nanos : Nat) : Json.ArePlain (Rfc3339.writeTime secondOfDay nanos) :=
    .append (.append (.append (hdigits 2 _) (hmarked rfl 2 _)) (hmarked rfl 2 _))
      (arePlain_writeFraction _)
  exact .append (.append (hdate _) (.cons rfl (htime _ _))) (by decide)

/-- What is written of a time that may be absent. -/
def timeValue : Option Timestamp → Json.Value
  | none => .null
  | some time => .text (String.ofList (Rfc3339.write time))

theorem spells_writeOptional (time? : Option Timestamp) :
    Json.Spells (Json.writeOptional writeTime time?) (timeValue time?) := by
  cases time? with
  | none => exact .null
  | some time => exact .text (Json.spellsText_writePlain (arePlain_write time))

theorem meansOptional_timeValue (time? : Option Timestamp) :
    Json.MeansOptional Json.MeansTime (timeValue time?) time? := by
  cases time? with
  | none => rfl
  | some time =>
    refine ⟨Json.Value.noConfusion, _, rfl, ?_⟩
    rw [String.toList_ofList]
    exact Rfc3339.read_write time

end Times

section Members

/-- What a member of metrics does to them. -/
def Means (key : String) (value : Json.Value) (update : Metrics → Metrics) : Prop :=
  (key = "commit_time" ∧ ∃ time?, Json.MeansOptional Json.MeansTime value time? ∧
      (fun metrics => { metrics with commitTime := time? }) = update) ∨
    (key = "rollback_time" ∧ ∃ time?, Json.MeansOptional Json.MeansTime value time? ∧
      (fun metrics => { metrics with rollbackTime := time? }) = update) ∨
    (key = "commits" ∧ ∃ count, Json.SpellsWord value count ∧
      (fun metrics => { metrics with commits := count }) = update) ∨
    (key = "rollbacks" ∧ ∃ count, Json.SpellsWord value count ∧
      (fun metrics => { metrics with rollbacks := count }) = update)

theorem shape_takes : shape.Takes Means := by
  intro field hmem
  simp only [shape, List.mem_cons, List.not_mem_nil, or_false] at hmem
  rcases hmem with rfl | rfl | rfl | rfl
  · refine (Json.takes_readOptional Json.takes_readTime).map fun value update => ?_
    simp [Means, Json.Field.of]
  · refine (Json.takes_readOptional Json.takes_readTime).map fun value update => ?_
    simp [Means, Json.Field.of]
  · refine (Json.takes_readUnsigned (by decide : 32 ≤ 64)).map fun value update => ?_
    refine Iff.trans ?_ (Json.exists_spellsWord_iff (p := fun count =>
      (fun metrics : Metrics => { metrics with commits := count }) = update))
    simp [Means, Json.Field.of]
  · refine (Json.takes_readUnsigned (by decide : 32 ≤ 64)).map fun value update => ?_
    refine Iff.trans ?_ (Json.exists_spellsWord_iff (p := fun count =>
      (fun metrics : Metrics => { metrics with rollbacks := count }) = update))
    simp [Means, Json.Field.of]

theorem knows_iff {key : String} :
    shape.Knows key ↔ key ∈ ["commit_time", "rollback_time", "commits", "rollbacks"] := by
  simp [Json.Shape.Knows, shape, Json.Field.of, eq_comm]

/-- What is written of metrics, member by member. -/
def entries (metrics : Metrics) : List Json.Entry :=
  [⟨"commit_time", Json.writeOptional writeTime metrics.commitTime, timeValue metrics.commitTime,
      by decide, spells_writeOptional _⟩,
    ⟨"rollback_time", Json.writeOptional writeTime metrics.rollbackTime,
      timeValue metrics.rollbackTime, by decide, spells_writeOptional _⟩,
    ⟨"commits", Json.writeNumber metrics.commits.toNat, .number (.ofNat metrics.commits.toNat),
      by decide, Json.spells_writeNumber _⟩,
    ⟨"rollbacks", Json.writeNumber metrics.rollbacks.toNat,
      .number (.ofNat metrics.rollbacks.toNat), by decide, Json.spells_writeNumber _⟩]

def members (metrics : Metrics) : List (String × Json.Value) :=
  [("commit_time", timeValue metrics.commitTime), ("rollback_time", timeValue metrics.rollbackTime),
    ("commits", .number (.ofNat metrics.commits.toNat)),
    ("rollbacks", .number (.ofNat metrics.rollbacks.toNat))]

theorem document_toJson (metrics : Metrics) :
    Json.Document metrics.toJson (.object metrics.members) :=
  Json.document_writeObject metrics.entries

/-- All four fields are given, so that nothing is left of the empty metrics. -/
theorem collects_members (metrics : Metrics) :
    Json.Collects shape Means [] empty metrics.members metrics := by
  refine .known (knows_iff.2 (by decide)) (by decide)
    (.inl ⟨rfl, _, meansOptional_timeValue _, rfl⟩) ?_
  refine .known (knows_iff.2 (by decide)) (by decide)
    (.inr (.inl ⟨rfl, _, meansOptional_timeValue _, rfl⟩)) ?_
  refine .known (knows_iff.2 (by decide)) (by decide)
    (.inr (.inr (.inl ⟨rfl, _, Json.Literal.natural?_ofNat _, rfl⟩))) ?_
  refine .known (knows_iff.2 (by decide)) (by decide)
    (.inr (.inr (.inr ⟨rfl, _, Json.Literal.natural?_ofNat _, rfl⟩))) ?_
  exact .done (by decide)

end Members

/-- Whatever metrics hold, they are read back from what is written of them. -/
theorem toJson_reversible (metrics : Metrics) : ofJson metrics.toJson = .ok metrics :=
  (Json.parse_eq_ok_iff shape_takes metrics.document_toJson).2 metrics.collects_members

end TxClient.Metrics
