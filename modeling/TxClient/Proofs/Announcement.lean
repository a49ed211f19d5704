import TxClient.Proofs.Config.Timeout
import TxClient.Proofs.Forwarding
import TxClient.Proofs.Local.Start

/-!
The timeout that the log shows for a start. It is the number of whole milliseconds as far as it
fits into 64 bits. A number that fits is shown as it is, so that a longer timeout is not shown
as less; one that does not fit is rarely shown as what a configuration would keep of it.
-/

namespace TxClient.Transactions

/-- What 64 bits hold of a number of milliseconds is what a configuration keeps of it if nothing
is lost, or if what is left happens to be the largest number. -/
theorem ofNat_wholeMillis_eq_iff (config : Config) (span : Duration) :
    UInt64.ofNat span.wholeMillis = (config.withTimeout span).defaultTimeoutMs ↔
      span.wholeMillis < UInt64.size ∨ span.wholeMillis % UInt64.size = UInt64.size - 1 := by
  rw [← UInt64.toNat_inj, UInt64.toNat_ofNat', Config.toNat_defaultTimeoutMs_withTimeout]
  simp only [UInt64.size]
  omega

section Log

variable {σ β ι : Type} [Backends β ι σ]

/-- When a backend is asked for a transaction, the log shows this many milliseconds before
anything that the backend has to tell. -/
def Announces (txs : Transactions β) (thread : ThreadId) (options : TxOptions)
    (report : ErrorReport) (state : σ) (millis : UInt64) : Prop :=
  ∃ told, (((txs.callStartWith thread options : Call σ (Transaction ι)).run report).run
      state).events =
    .forwarding .txStart ::
      .starting options.concurrency options.isolation millis options.size :: told

variable {txs : Transactions β} {backend : β}

theorem announces_iff (hbackend : txs.backend? = some backend) (thread : ThreadId)
    (options : TxOptions) (report : ErrorReport) (state : σ) (millis : UInt64) :
    txs.Announces thread options report state millis ↔
      millis = .ofNat options.timeout.wholeMillis := by
  rw [Announces, run_callStartWith hbackend]
  constructor
  · rintro ⟨told, htold⟩
    obtain ⟨hevent, -⟩ := List.cons.inj (List.cons.inj htold).2
    obtain ⟨-, -, hmillis, -⟩ := Event.starting.inj hevent
    exact hmillis.symm
  · rintro rfl
    exact ⟨_, rfl⟩

/-- The log of a start over any backend, in any state and with any report. -/
structure AnnouncesTimeouts (txs : Transactions β) (thread : ThreadId) (report : ErrorReport)
    (state : σ) : Prop where
  truncated (options : TxOptions) (millis : UInt64) :
    txs.Announces thread options report state millis ↔
      millis.toNat = options.timeout.wholeMillis % UInt64.size
  agrees_iff (options : TxOptions) (config : Config) :
    txs.Announces thread options report state
        (config.withTimeout options.timeout).defaultTimeoutMs ↔
      options.timeout.wholeMillis < UInt64.size ∨
        options.timeout.wholeMillis % UInt64.size = UInt64.size - 1
  exact_of_lt (options : TxOptions) (hfits : options.timeout.wholeMillis < UInt64.size)
    (millis : UInt64) : txs.Announces thread options report state millis ↔
      millis.toNat = options.timeout.wholeMillis
  longer_le (options longer : TxOptions) (hlonger : options.timeout ≤ longer.timeout)
    (hfits : longer.timeout.wholeMillis < UInt64.size) (millis more : UInt64)
    (hmillis : txs.Announces thread options report state millis)
    (hmore : txs.Announces thread longer report state more) : millis ≤ more

theorem announces_timeouts (hbackend : txs.backend? = some backend) (thread : ThreadId)
    (report : ErrorReport) (state : σ) : txs.AnnouncesTimeouts thread report state := by
  have htruncated (options : TxOptions) (millis : UInt64) :
      txs.Announces thread options report state millis ↔
        millis.toNat = options.timeout.wholeMillis % UInt64.size := by
    rw [announces_iff hbackend, ← UInt64.toNat_inj, UInt64.toNat_ofNat']
  have hexact (options : TxOptions) (hfits : options.timeout.wholeMillis < UInt64.size)
      (millis : UInt64) : txs.Announces thread options report state millis ↔
        millis.toNat = options.timeout.wholeMillis := by
    rw [htruncated, Nat.mod_eq_of_lt hfits]
  refine ⟨htruncated, ?_, hexact, ?_⟩
  · intro options config
    rw [announces_iff hbackend, eq_comm]
    exact ofNat_wholeMillis_eq_iff config options.timeout
  · intro options longer hlonger hfits millis more hmillis hmore
    have hle : options.timeout.wholeMillis ≤ longer.timeout.wholeMillis :=
      Nat.div_le_div_right hlonger
    rw [hexact options (Nat.lt_of_le_of_lt hle hfits)] at hmillis
    rw [hexact longer hfits] at hmore
    rw [UInt64.le_iff_toNat_le, hmillis, hmore]
    exact hle

end Log

section Sample

/-- The shortest timeout that has too many milliseconds. -/
def overlongTimeout : Duration where
  nanos := 18446744073709551616 * 1000000
  nanos_lt := by decide

/-- The shortest timeout with too many milliseconds is shown as none at all, though all that can
be stored of it would be stored, and although less than it is shown as it is. -/
theorem overlong_timeout_announced_as_none :
    let world := Local.World.initial.addBackend
    let txs : Transactions BackendId := ⟨some ⟨0⟩, .standard⟩
    let options : TxOptions := { (default : TxOptions) with timeout := overlongTimeout }
    let shorter : TxOptions := { (default : TxOptions) with timeout := .longestMillis }
    txs.Announces ⟨1⟩ options .success world 0 ∧
      (Config.standard.withTimeout options.timeout).defaultTimeoutMs = 18446744073709551615 ∧
      ¬ txs.Announces ⟨1⟩ options .success world
        (Config.standard.withTimeout options.timeout).defaultTimeoutMs ∧
      shorter.timeout ≤ options.timeout ∧
      txs.Announces ⟨1⟩ shorter .success world 18446744073709551615 := by
  intro world txs options shorter
  have hbackend : txs.backend? = some ⟨0⟩ := rfl
  have hstored : (Config.standard.withTimeout options.timeout).defaultTimeoutMs =
      18446744073709551615 := by decide
  refine ⟨?_, hstored, ?_, ?_, ?_⟩
  · exact (announces_iff hbackend ⟨1⟩ options .success world 0).2 (by decide)
  · rw [hstored, announces_iff hbackend]
    decide
  · exact Nat.mul_le_mul_right 1000000 (by decide)
  · exact (announces_iff hbackend ⟨1⟩ shorter .success world _).2 (by decide)

/-- The longest timeout that is announced as it is. -/
theorem announces_timeouts_of_longest :
    let world := Local.World.initial.addBackend
    let txs : Transactions BackendId := ⟨some ⟨0⟩, .standard⟩
    let options : TxOptions := { (default : TxOptions) with timeout := .longestMillis }
    txs.backend? = some ⟨0⟩ ∧ options.timeout.wholeMillis < UInt64.size ∧
      txs.Announces ⟨1⟩ options .success world
        (Config.standard.withTimeout options.timeout).defaultTimeoutMs := by
  intro world txs options
  have hbackend : txs.backend? = some ⟨0⟩ := rfl
  have hfits : options.timeout.wholeMillis < UInt64.size := by decide
  have hannounces := announces_timeouts hbackend ⟨1⟩ .success world
  exact ⟨hbackend, hfits, (hannounces.agrees_iff options .standard).2 (.inl hfits)⟩

end Sample

end TxClient.Transactions
