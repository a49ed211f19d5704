import TxClient.Proofs.Json.Grammar

/-!
What the members of an object say about one key. A key that comes once sets what belongs to it,
and a key that does not come leaves it as it was; neither the order of the members nor the members
with other keys matter.
-/

namespace TxClient.Json

variable {β : Type} {key other : String} {spells : Value → β → Prop} {old new : β} {value : Value}
  {members others : List (String × Value)}

/-- The keys of the members, each as often as it comes. -/
def keys (members : List (String × Value)) : List String :=
  members.map (·.1)

theorem mem_keys : key ∈ keys members ↔ ∃ value, (key, value) ∈ members := by
  simp [keys]

/-- The members set something: their key comes at most once, a value with the key spells it, and
without such a value it stays as it was. -/
structure Sets (key : String) (spells : Value → β → Prop) (old new : β)
    (members : List (String × Value)) : Prop where
  once : (keys members).count key ≤ 1
  given : ∀ value, (key, value) ∈ members → spells value new
  absent : key ∉ keys members → new = old

theorem sets_iff_of_not_mem (hmissing : key ∉ keys members) :
    Sets key spells old new members ↔ new = old := by
  constructor
  · intro hsets
    exact hsets.absent hmissing
  · intro hsame
    refine ⟨?_, fun value hmem => ?_, fun _ => hsame⟩
    · rw [List.count_eq_zero.2 hmissing]
      exact Nat.zero_le 1
    · exact absurd (mem_keys.2 ⟨value, hmem⟩) hmissing

/-- A member with another key does not matter. -/
theorem sets_cons_other_iff (hother : other ≠ key) :
    Sets key spells old new ((other, value) :: members) ↔ Sets key spells old new members := by
  have hkeys : keys ((other, value) :: members) = other :: keys members := rfl
  constructor
  · rintro ⟨honce, hgiven, habsent⟩
    rw [hkeys, List.count_cons_of_ne hother] at honce
    refine ⟨honce, fun value hmem => hgiven value (List.mem_cons_of_mem _ hmem), fun hmissing => ?_⟩
    exact habsent (by simpa [hkeys, Ne.symm hother] using hmissing)
  · rintro ⟨honce, hgiven, habsent⟩
    refine ⟨?_, fun value hmem => ?_, fun hmissing => ?_⟩
    · rwa [hkeys, List.count_cons_of_ne hother]
    · have hsame : key ≠ other := Ne.symm hother
      exact hgiven value (by simpa [hsame] using hmem)
    · exact habsent (by simpa [hkeys, Ne.symm hother] using hmissing)

/-- The member with the key is the only one. -/
theorem sets_cons_iff :
    Sets key spells old new ((key, value) :: members) ↔ key ∉ keys members ∧ spells value new := by
  have hkeys : keys ((key, value) :: members) = key :: keys members := rfl
  constructor
  · rintro ⟨honce, hgiven, -⟩
    rw [hkeys, List.count_cons_self] at honce
    exact ⟨List.count_eq_zero.1 (by omega), hgiven value (List.mem_cons_self ..)⟩
  · rintro ⟨hmissing, hvalue⟩
    refine ⟨?_, fun other hmem => ?_, fun hnone => ?_⟩
    · have hcount : (key :: keys members).count key = 0 + 1 := by
        rw [List.count_cons_self, List.count_eq_zero.2 hmissing]
      exact Nat.le_of_eq hcount
    · rcases List.mem_cons.1 hmem with hsame | hmember
      · cases hsame
        exact hvalue
      · exact absurd (mem_keys.2 ⟨other, hmember⟩) hmissing
    · exact absurd (List.mem_cons_self ..) hnone

/-- What is set is determined if no value spells two things. -/
theorem Sets.unique {first second : β} (hfirst : Sets key spells old first members)
    (hsecond : Sets key spells old second members)
    (hspells : ∀ value, spells value first → spells value second → first = second) :
    first = second := by
  by_cases hkey : key ∈ keys members
  · obtain ⟨value, hmem⟩ := mem_keys.1 hkey
    exact hspells value (hfirst.given value hmem) (hsecond.given value hmem)
  · rw [hfirst.absent hkey, hsecond.absent hkey]

/-- The members with one of the names as their key. -/
def named (names : List String) (members : List (String × Value)) : List (String × Value) :=
  members.filter fun member => names.contains member.1

variable {names : List String}

theorem count_keys_named (hkey : key ∈ names) :
    (keys (named names members)).count key = (keys members).count key := by
  have hfilter : keys (named names members) = (keys members).filter names.contains := by
    rw [keys, named, keys, List.filter_map]
    rfl
  rw [hfilter, List.count_filter (by simpa using hkey)]

theorem mem_named (hkey : key ∈ names) :
    (key, value) ∈ named names members ↔ (key, value) ∈ members := by
  simp [named, hkey]

/-- Members with other keys, and the order of the members, do not matter. -/
theorem Sets.of_perm (hkey : key ∈ names) (hperm : (named names members).Perm (named names others))
    (hsets : Sets key spells old new members) : Sets key spells old new others := by
  have hcount : (keys members).count key = (keys others).count key :=
    calc (keys members).count key
      _ = (keys (named names members)).count key := (count_keys_named hkey).symm
      _ = (keys (named names others)).count key := (hperm.map _).count_eq key
      _ = (keys others).count key := count_keys_named hkey
  have hmem (value : Value) : (key, value) ∈ members ↔ (key, value) ∈ others := by
    rw [← mem_named hkey, hperm.mem_iff, mem_named hkey]
  refine ⟨?_, fun value hmember => hsets.given value ((hmem value).2 hmember), fun hmissing => ?_⟩
  · rw [← hcount]
    exact hsets.once
  · refine hsets.absent fun hkeys => ?_
    obtain ⟨value, hmember⟩ := mem_keys.1 hkeys
    exact hmissing (mem_keys.2 ⟨value, (hmem value).1 hmember⟩)

end TxClient.Json
