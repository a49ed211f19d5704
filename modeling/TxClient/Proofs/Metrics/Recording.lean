import Mathlib.Algebra.Group.Nat.Defs
import TxClient.Metrics.Basic

/-!
Metrics after a series of ends. Each counter goes on from where it stood until it is full, and the
time of each way of ending is the one that was recorded last, whatever time it is. Ends of one way
leave no trace in what is shown of the other.
-/

namespace TxClient.Metrics

/-- The counter of the transactions that ended one way. -/
def counter (metrics : Metrics) : Ending → UInt32
  | .commit => metrics.commits
  | .rollback => metrics.rollbacks

/-- When the last transaction ended one way. -/
def time? (metrics : Metrics) : Ending → Option Timestamp
  | .commit => metrics.commitTime
  | .rollback => metrics.rollbackTime

/-- Metrics after some ends, each with its time, in the order in which they are recorded. -/
def recordAll (metrics : Metrics) (ends : List (Ending × Timestamp)) : Metrics :=
  ends.foldl (fun metrics entry => metrics.record entry.1 entry.2) metrics

/-- The times of the ends of one way, in the order in which they are recorded. -/
def timesOf (ending : Ending) (ends : List (Ending × Timestamp)) : List Timestamp :=
  (ends.filter (·.1 == ending)).map (·.2)

section Record

variable {metrics other : Metrics} {ending way : Ending}

theorem eq_of_counter_of_time (hcounter : ∀ ending, metrics.counter ending = other.counter ending)
    (htime : ∀ ending, metrics.time? ending = other.time? ending) : metrics = other := by
  cases metrics
  cases other
  exact mk.injEq .. ▸ ⟨htime .commit, htime .rollback, hcounter .commit, hcounter .rollback⟩

theorem toNat_next (counter : UInt32) :
    (next counter).toNat = min (2 ^ 32 - 1) (counter.toNat + 1) := by
  have hbound : counter.toNat < 4294967296 := counter.toNat_lt
  have hsize : UInt32.size = 4294967296 := rfl
  unfold next
  by_cases hroom : counter.toNat + 1 < UInt32.size
  · have hsum : (counter + 1).toNat = (counter.toNat + 1) % 4294967296 := UInt32.toNat_add counter 1
    rw [if_pos hroom, hsum]
    omega
  · rw [if_neg hroom]
    omega

theorem counter_record_self (metrics : Metrics) (ending : Ending) (time : Timestamp) :
    (metrics.record ending time).counter ending = next (metrics.counter ending) := by
  cases ending <;> rfl

theorem counter_record_of_ne (hway : way ≠ ending) (metrics : Metrics) (time : Timestamp) :
    (metrics.record way time).counter ending = metrics.counter ending := by
  cases way <;> cases ending
  · exact absurd rfl hway
  · rfl
  · rfl
  · exact absurd rfl hway

theorem time?_record_self (metrics : Metrics) (ending : Ending) (time : Timestamp) :
    (metrics.record ending time).time? ending = some time := by
  cases ending <;> rfl

theorem time?_record_of_ne (hway : way ≠ ending) (metrics : Metrics) (time : Timestamp) :
    (metrics.record way time).time? ending = metrics.time? ending := by
  cases way <;> cases ending
  · exact absurd rfl hway
  · rfl
  · rfl
  · exact absurd rfl hway

/-- The sum of both counters fits into 64 bits. -/
theorem toNat_toUInt64_add (metrics : Metrics) :
    (metrics.commits.toUInt64 + metrics.rollbacks.toUInt64).toNat = metrics.finished := by
  have hcommits : metrics.commits.toNat < 2 ^ 32 := metrics.commits.toNat_lt
  have hrollbacks : metrics.rollbacks.toNat < 2 ^ 32 := metrics.rollbacks.toNat_lt
  rw [UInt64.toNat_add, UInt32.toNat_toUInt64, UInt32.toNat_toUInt64, finished]
  omega

theorem finished_le_record (metrics : Metrics) (ending : Ending) (time : Timestamp) :
    metrics.finished ≤ (metrics.record ending time).finished := by
  have hle (way : Ending) :
      (metrics.counter way).toNat ≤ ((metrics.record ending time).counter way).toNat := by
    by_cases hway : ending = way
    · subst hway
      have hbound := (metrics.counter ending).toNat_lt
      rw [counter_record_self, toNat_next]
      omega
    · have hsame := counter_record_of_ne hway metrics time
      exact Nat.le_of_eq (congrArg UInt32.toNat hsame.symm)
  exact Nat.add_le_add (hle .commit) (hle .rollback)

end Record

section Series

variable {metrics : Metrics} {ending way : Ending} {ends others : List (Ending × Timestamp)}

theorem timesOf_cons_self (ending : Ending) (time : Timestamp) (ends : List (Ending × Timestamp)) :
    timesOf ending ((ending, time) :: ends) = time :: timesOf ending ends := by
  rw [timesOf, List.filter_cons_of_pos (by simp)]
  rfl

theorem timesOf_cons_of_ne (hway : way ≠ ending) (time : Timestamp)
    (ends : List (Ending × Timestamp)) :
    timesOf ending ((way, time) :: ends) = timesOf ending ends := by
  rw [timesOf, List.filter_cons_of_neg (by simpa using hway)]
  rfl

theorem recordAll_cons (metrics : Metrics) (ending : Ending) (time : Timestamp)
    (ends : List (Ending × Timestamp)) :
    metrics.recordAll ((ending, time) :: ends) = (metrics.record ending time).recordAll ends := rfl

theorem recordAll_append (metrics : Metrics) (front back : List (Ending × Timestamp)) :
    metrics.recordAll (front ++ back) = (metrics.recordAll front).recordAll back :=
  List.foldl_append

theorem toNat_counter_recordAll (metrics : Metrics) (ends : List (Ending × Timestamp))
    (ending : Ending) :
    ((metrics.recordAll ends).counter ending).toNat =
      min (2 ^ 32 - 1) ((metrics.counter ending).toNat + (timesOf ending ends).length) := by
  induction ends generalizing metrics with
  | nil =>
    have hbound : (metrics.counter ending).toNat < 2 ^ 32 := (metrics.counter ending).toNat_lt
    change (metrics.counter ending).toNat = min (2 ^ 32 - 1) ((metrics.counter ending).toNat + 0)
    omega
  | cons entry ends ih =>
    obtain ⟨way, time⟩ := entry
    rw [recordAll_cons, ih]
    by_cases hway : way = ending
    · subst hway
      rw [counter_record_self, toNat_next, timesOf_cons_self, List.length_cons]
      omega
    · rw [counter_record_of_ne hway, timesOf_cons_of_ne hway]

theorem time?_recordAll (metrics : Metrics) (ends : List (Ending × Timestamp)) (ending : Ending) :
    (metrics.recordAll ends).time? ending =
      (timesOf ending ends).getLast?.or (metrics.time? ending) := by
  induction ends generalizing metrics with
  | nil => rfl
  | cons entry ends ih =>
    obtain ⟨way, time⟩ := entry
    rw [recordAll_cons, ih]
    by_cases hway : way = ending
    · subst hway
      rw [time?_record_self, timesOf_cons_self, List.getLast?_cons]
      cases (timesOf way ends).getLast? <;> rfl
    · rw [time?_record_of_ne hway, timesOf_cons_of_ne hway]

theorem recordAll_congr (htimes : ∀ ending, timesOf ending others = timesOf ending ends) :
    metrics.recordAll others = metrics.recordAll ends := by
  refine eq_of_counter_of_time ?_ ?_
  · intro ending
    rw [← UInt32.toNat_inj, toNat_counter_recordAll, toNat_counter_recordAll, htimes]
  · intro ending
    rw [time?_recordAll, time?_recordAll, htimes]

theorem finished_le_recordAll (metrics : Metrics) (ends : List (Ending × Timestamp)) :
    metrics.finished ≤ (metrics.recordAll ends).finished := by
  induction ends generalizing metrics with
  | nil => exact Nat.le_refl _
  | cons entry ends ih =>
    obtain ⟨ending, time⟩ := entry
    calc metrics.finished
        ≤ (metrics.record ending time).finished := finished_le_record metrics ending time
      _ ≤ ((metrics.record ending time).recordAll ends).finished := ih _

/-- Metrics that stood anywhere, after any series of ends. -/
theorem recordAll_exact (metrics : Metrics) (ends : List (Ending × Timestamp)) :
    (∀ ending, ((metrics.recordAll ends).counter ending).toNat =
        min (2 ^ 32 - 1) ((metrics.counter ending).toNat + (timesOf ending ends).length) ∧
      (metrics.recordAll ends).time? ending =
        (timesOf ending ends).getLast?.or (metrics.time? ending)) ∧
    (∀ others, (∀ ending, timesOf ending others = timesOf ending ends) →
      metrics.recordAll others = metrics.recordAll ends) ∧
    ((metrics.recordAll ends).finished =
        (metrics.recordAll ends).commits.toNat + (metrics.recordAll ends).rollbacks.toNat ∧
      (metrics.recordAll ends).finished =
        ((metrics.recordAll ends).commits.toUInt64 +
          (metrics.recordAll ends).rollbacks.toUInt64).toNat) ∧
    ∀ front, front <+: ends →
      (metrics.recordAll front).finished ≤ (metrics.recordAll ends).finished := by
  refine ⟨?_, fun _ => recordAll_congr, ⟨rfl, (toNat_toUInt64_add _).symm⟩, ?_⟩
  · intro ending
    exact ⟨toNat_counter_recordAll metrics ends ending, time?_recordAll metrics ends ending⟩
  · rintro front ⟨back, rfl⟩
    rw [recordAll_append]
    exact finished_le_recordAll _ back

end Series

section Sample

def late : Timestamp :=
  ⟨60, 1, by decide, by decide, by decide, by decide⟩

/-- One commit is left before the counter is full. -/
def nearlyFull : Metrics :=
  ⟨some late, none, 4294967294, 0⟩

/-- The last commit of the two is recorded with the earlier time. -/
def crossedEnds : List (Ending × Timestamp) :=
  [(.commit, late), (.rollback, late), (.commit, .epoch)]

def rollbackFirst : List (Ending × Timestamp) :=
  [(.rollback, late), (.commit, late), (.commit, .epoch)]

theorem recordAll_exact_of_nearly_full :
    (∀ ending, timesOf ending rollbackFirst = timesOf ending crossedEnds) ∧
      nearlyFull.recordAll rollbackFirst = nearlyFull.recordAll crossedEnds ∧
      nearlyFull.recordAll crossedEnds = ⟨some .epoch, some late, 4294967295, 1⟩ ∧
      [(.commit, late)] <+: crossedEnds ∧
      (nearlyFull.recordAll [(.commit, late)]).finished ≤
        (nearlyFull.recordAll crossedEnds).finished := by
  have htimes : ∀ ending, timesOf ending rollbackFirst = timesOf ending crossedEnds := by
    intro ending
    cases ending <;> rfl
  have hfront : [(.commit, late)] <+: crossedEnds := ⟨_, rfl⟩
  obtain ⟨-, hcongr, -, hgrows⟩ := recordAll_exact nearlyFull crossedEnds
  exact ⟨htimes, hcongr _ htimes, by decide, hfront, hgrows _ hfront⟩

end Sample

end TxClient.Metrics
