import Mathlib.Data.Nat.Basic
import Mathlib.Order.Bounds.Basic
import TxClient.Config.Basic

/-!
Timeouts in milliseconds. A configuration keeps the whole milliseconds of a span, as many as it
can store, and gives out the span of what it keeps; what it gives out it keeps unchanged.
-/

namespace TxClient

namespace Duration

theorem nanos_injective : Function.Injective nanos := by
  rintro ⟨first, hfirst⟩ ⟨second, hsecond⟩ rfl
  rfl

/-- Spans of time by their length. -/
instance : PartialOrder Duration :=
  PartialOrder.lift nanos nanos_injective

theorem le_iff {first second : Duration} : first ≤ second ↔ first.nanos ≤ second.nanos := Iff.rfl

/-- The span is a whole number of milliseconds. -/
def IsWholeMillis (span : Duration) : Prop :=
  ∃ count : Nat, span.nanos = count * 1000000

/-- The most milliseconds that can be stored. -/
def longestMillis : Duration :=
  .ofMillis 18446744073709551615

theorem nanos_longestMillis : longestMillis.nanos = 18446744073709551615 * 1000000 := rfl

end Duration

namespace Config

section Stored

variable (config : Config) (span : Duration)

theorem toNat_defaultTimeoutMs_withTimeout :
    (config.withTimeout span).defaultTimeoutMs.toNat =
      min span.wholeMillis 18446744073709551615 := by
  change (if span.wholeMillis < UInt64.size then UInt64.ofNat span.wholeMillis
    else UInt64.ofNat (UInt64.size - 1)).toNat = _
  split
  · next hlt =>
    rw [UInt64.toNat_ofNat_of_lt' hlt]
    simp only [UInt64.size] at hlt
    omega
  · next hge =>
    rw [UInt64.toNat_ofNat_of_lt' (by decide)]
    simp only [UInt64.size] at hge ⊢
    omega

theorem nanos_timeout_txOptions :
    config.txOptions.timeout.nanos = config.defaultTimeoutMs.toNat * 1000000 := rfl

/-- What is given out of a span that was stored. -/
def keptTimeout : Duration :=
  (config.withTimeout span).txOptions.timeout

theorem nanos_keptTimeout :
    (config.keptTimeout span).nanos =
      min (span.nanos / 1000000) 18446744073709551615 * 1000000 := by
  rw [keptTimeout, nanos_timeout_txOptions, toNat_defaultTimeoutMs_withTimeout,
    Duration.wholeMillis]

theorem isGreatest_keptTimeout :
    IsGreatest {kept : Duration | kept.IsWholeMillis ∧ kept ≤ span ∧ kept ≤ .longestMillis}
      (config.keptTimeout span) := by
  have hkept := config.nanos_keptTimeout span
  have hlongest := Duration.nanos_longestMillis
  refine ⟨⟨⟨_, hkept⟩, ?_, ?_⟩, ?_⟩
  · rw [Duration.le_iff]
    omega
  · rw [Duration.le_iff]
    omega
  · rintro other ⟨⟨count, hcount⟩, hspan, hlong⟩
    rw [Duration.le_iff] at hspan hlong ⊢
    omega

theorem hasTimeout_withTimeout_eq_false_iff :
    (config.withTimeout span).txOptions.hasTimeout = false ↔ span.nanos < 1000000 := by
  have hkept := config.nanos_keptTimeout span
  change (config.keptTimeout span != Duration.zero) = false ↔ _
  rw [bne_eq_false_iff_eq, ← Duration.nanos_injective.eq_iff]
  change (config.keptTimeout span).nanos = 0 ↔ _
  omega

/-- Storing a timeout changes nothing but the milliseconds. -/
theorem withTimeout_eq :
    config.withTimeout span =
      { config with defaultTimeoutMs := (config.withTimeout span).defaultTimeoutMs } := rfl

theorem withTimeout_timeout : config.withTimeout config.txOptions.timeout = config := by
  have hmillis : (config.withTimeout config.txOptions.timeout).defaultTimeoutMs =
      config.defaultTimeoutMs := by
    apply UInt64.toNat_inj.1
    have hlt := config.defaultTimeoutMs.toNat_lt
    rw [toNat_defaultTimeoutMs_withTimeout, Duration.wholeMillis, nanos_timeout_txOptions]
    omega
  rw [withTimeout_eq, hmillis]

end Stored

/-- How a configuration treats timeouts. The whole seconds of a span and the nanoseconds beside
them are counted in milliseconds within 128 bits; the seconds that are given out have 64 bits,
and the nanoseconds beside them stay below a second. -/
structure KeepsTimeouts (config : Config) : Prop where
  greatest (span : Duration) :
    IsGreatest {kept : Duration | kept.IsWholeMillis ∧ kept ≤ span ∧ kept ≤ .longestMillis}
      (config.keptTimeout span)
  never_longer (span : Duration) : config.keptTimeout span ≤ span
  shorter_lt (span : Duration) (hspan : span ≤ .longestMillis) :
    span.nanos < (config.keptTimeout span).nanos + 1000000
  monotone : Monotone config.keptTimeout
  hasTimeout_iff (span : Duration) :
    (config.withTimeout span).txOptions.hasTimeout = false ↔ span.nanos < 1000000
  restored : config.withTimeout config.txOptions.timeout = config
  others (span : Duration) :
    config.withTimeout span =
        { config with defaultTimeoutMs := (config.withTimeout span).defaultTimeoutMs } ∧
      (config.withTimeout span).txOptions =
        { config.txOptions with timeout := config.keptTimeout span }
  count_fits (span : Duration) :
    span.wholeMillis = span.seconds * 1000 + span.fraction / 1000000 ∧
      span.seconds * 1000 + span.fraction / 1000000 < UInt64.size * UInt64.size
  parts_fit : config.txOptions.timeout.seconds = config.defaultTimeoutMs.toNat / 1000 ∧
    config.txOptions.timeout.fraction = config.defaultTimeoutMs.toNat % 1000 * 1000000 ∧
      config.txOptions.timeout.seconds < UInt64.size ∧
        config.txOptions.timeout.fraction < 1000000000

theorem keeps_timeouts (config : Config) : config.KeepsTimeouts where
  greatest span := config.isGreatest_keptTimeout span
  never_longer span := (config.isGreatest_keptTimeout span).1.2.1
  shorter_lt span hspan := by
    have hkept := config.nanos_keptTimeout span
    rw [Duration.le_iff, Duration.nanos_longestMillis] at hspan
    omega
  monotone := by
    intro first second hle
    have hfirst := config.nanos_keptTimeout first
    have hsecond := config.nanos_keptTimeout second
    rw [Duration.le_iff] at hle ⊢
    omega
  hasTimeout_iff span := config.hasTimeout_withTimeout_eq_false_iff span
  restored := config.withTimeout_timeout
  others span := ⟨config.withTimeout_eq span, rfl⟩
  count_fits span := by
    have hlt := span.nanos_lt
    simp only [UInt64.size] at hlt ⊢
    unfold Duration.wholeMillis Duration.seconds Duration.fraction
    omega
  parts_fit := by
    have hlt := config.defaultTimeoutMs.toNat_lt
    have hnanos := config.nanos_timeout_txOptions
    unfold Duration.seconds Duration.fraction
    simp only [UInt64.size]
    omega

end Config

end TxClient
