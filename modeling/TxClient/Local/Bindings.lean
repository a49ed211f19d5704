import TxClient.Identity

namespace TxClient.Local

/-- The unfinished session of each thread; a thread has at most one. -/
structure Bindings where
  entries : List (ThreadId × SessionId)
  distinct : (entries.map Prod.fst).Nodup
  deriving DecidableEq, Repr

namespace Bindings

def empty : Bindings :=
  ⟨[], .nil⟩

instance : Inhabited Bindings := ⟨empty⟩

def find? (bindings : Bindings) (thread : ThreadId) : Option SessionId :=
  bindings.entries.lookup thread

def count (bindings : Bindings) : Nat :=
  bindings.entries.length

def filter (bindings : Bindings) (keep : ThreadId × SessionId → Bool) : Bindings :=
  ⟨bindings.entries.filter keep,
    bindings.distinct.sublist (List.filter_sublist.map Prod.fst)⟩

/-- Bind a session to a thread, in place of any other. -/
def insert (bindings : Bindings) (thread : ThreadId) (session : SessionId) : Bindings where
  entries := (thread, session) :: (bindings.filter (·.1 != thread)).entries
  distinct := by
    refine List.nodup_cons.2 ⟨?_, (bindings.filter _).distinct⟩
    simp [filter]

/-- Release a thread from a session. A thread that is bound to another session stays so. -/
def release (bindings : Bindings) (thread : ThreadId) (session : SessionId) : Bindings :=
  bindings.filter (· != (thread, session))

theorem find?_eq_some_iff {bindings : Bindings} {thread : ThreadId} {session : SessionId} :
    bindings.find? thread = some session ↔ (thread, session) ∈ bindings.entries := by
  obtain ⟨entries, hdistinct⟩ := bindings
  simp only [find?]
  induction entries with
  | nil => simp
  | cons entry rest ih =>
    obtain ⟨bound, held⟩ := entry
    obtain ⟨hfresh, hrest⟩ := List.nodup_cons.1 hdistinct
    rw [List.lookup_cons, List.mem_cons, Prod.mk.injEq]
    by_cases hthread : thread = bound
    · subst bound
      have hnot : (thread, session) ∉ rest := by
        intro hmem
        exact hfresh (List.mem_map.2 ⟨_, hmem, rfl⟩)
      simp [hnot, eq_comm]
    · have hbeq : (thread == bound) = false := by simpa using hthread
      simp [hbeq, hthread, ih hrest]

@[simp] theorem find?_empty (thread : ThreadId) : empty.find? thread = none := rfl

theorem find?_insert_eq_some_iff {bindings : Bindings} {thread other : ThreadId}
    {session found : SessionId} :
    (bindings.insert thread session).find? other = some found ↔
      other = thread ∧ found = session ∨ other ≠ thread ∧ bindings.find? other = some found := by
  simp [find?_eq_some_iff, insert, filter, and_comm]

theorem find?_release_eq_some_iff {bindings : Bindings} {thread other : ThreadId}
    {session found : SessionId} :
    (bindings.release thread session).find? other = some found ↔
      ¬ (other = thread ∧ found = session) ∧ bindings.find? other = some found := by
  simp [find?_eq_some_iff, release, filter, and_comm]

theorem find?_release_self {bindings : Bindings} {thread : ThreadId} {session : SessionId}
    (hbound : bindings.find? thread = some session) :
    (bindings.release thread session).find? thread = none := by
  refine Option.eq_none_iff_forall_ne_some.2 fun found hfound => ?_
  obtain ⟨hother, hagain⟩ := find?_release_eq_some_iff.1 hfound
  exact hother ⟨rfl, Option.some.inj (hagain.symm.trans hbound)⟩

theorem find?_release_of_ne (bindings : Bindings) {thread other : ThreadId} (session : SessionId)
    (hother : other ≠ thread) :
    (bindings.release thread session).find? other = bindings.find? other := by
  ext found
  simp [find?_release_eq_some_iff, hother]

end Bindings

end TxClient.Local
