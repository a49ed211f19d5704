import TxClient.Error.Report

/-!
Status codes on their way from a report to an error and back. A code keeps its number and its
message, no code but zero is taken for a success, and no error that can come about is one.
-/

namespace TxClient

namespace ErrorKind

/-- The codes that have a classification. -/
def knownCodes : List Int32 :=
  [0, 1, 2, 3, 4, 5, 100, 101, 102, 103]

theorem map_code_known : known.map code = knownCodes := rfl

theorem mem_known_or_unknown (kind : ErrorKind) : kind ∈ known ∨ ∃ code, kind = unknown code := by
  cases kind with
  | unknown code => exact .inr ⟨code, rfl⟩
  | _ => exact .inl (by decide)

theorem unknown_not_mem_known (code : Int32) : unknown code ∉ known := by
  simp [known]

/-- Whatever row of the table of kinds a code is in, the table of codes has it for that kind. -/
theorem code_ofCode (code : Int32) : (ofCode code).code = code := by
  unfold ofCode
  split <;> rfl

theorem ofCode_code_of_known : ∀ kind ∈ known, ofCode kind.code = kind := by
  decide

theorem ofCode_mem_known {code : Int32} (hknown : code ∈ knownCodes) : ofCode code ∈ known := by
  rw [← map_code_known] at hknown
  obtain ⟨kind, hkind, rfl⟩ := List.mem_map.1 hknown
  rwa [ofCode_code_of_known kind hkind]

theorem ofCode_eq_unknown {code : Int32} (hunknown : code ∉ knownCodes) :
    ofCode code = unknown code := by
  cases mem_known_or_unknown (ofCode code) with
  | inl hmem =>
    have hknown := List.mem_map_of_mem (f := ErrorKind.code) hmem
    rw [map_code_known, code_ofCode] at hknown
    exact absurd hknown hunknown
  | inr hother =>
    obtain ⟨other, hother⟩ := hother
    have hcode := code_ofCode code
    rw [hother] at hcode
    rw [hother, ← hcode]
    rfl

theorem ofCode_eq_success_iff {code : Int32} : ofCode code = success ↔ code = 0 := by
  constructor
  · intro hsuccess
    rw [← code_ofCode code, hsuccess]
    rfl
  · rintro rfl
    rfl

/-- A kind is found again by its code, unless it was made an unknown kind although its code is
known. Then the known kind of that code is found. -/
structure FoundByCode (kind : ErrorKind) : Prop where
  same_iff : ofCode kind.code = kind ↔ ¬ ∃ code ∈ knownCodes, kind = unknown code
  known : ∀ code ∈ knownCodes, kind = unknown code →
    ofCode kind.code ∈ ErrorKind.known ∧ (ofCode kind.code).code = code

theorem foundByCode (kind : ErrorKind) : kind.FoundByCode := by
  constructor
  · constructor
    · rintro hsame ⟨code, hknown, rfl⟩
      have hmem : ofCode code ∈ ErrorKind.known := ofCode_mem_known hknown
      rw [show ofCode code = unknown code from hsame] at hmem
      exact unknown_not_mem_known code hmem
    · intro hnot
      cases mem_known_or_unknown kind with
      | inl hmem => exact ofCode_code_of_known kind hmem
      | inr hunknown =>
        obtain ⟨code, rfl⟩ := hunknown
        exact ofCode_eq_unknown fun hknown => hnot ⟨code, hknown, rfl⟩
  · rintro code hknown rfl
    exact ⟨ofCode_mem_known hknown, code_ofCode code⟩

end ErrorKind

namespace ErrorReport

/-- What a report of a status code tells. -/
structure TellsCode (report : ErrorReport) (code : Int32) (message : String) : Prop where
  isSuccess_iff : report.isSuccess = true ↔ code = 0
  raised_ok_iff : report.raised = .ok () ↔ code = 0
  raised_error (hcode : code ≠ 0) : ∃ error, report.raised = .error error ∧
    error.kind.code = code ∧ error.message = message ∧ ofError error = report

theorem tellsCode (code : Int32) (message : String) :
    TellsCode ⟨.ofCode code, message⟩ code message := by
  have hsuccess : (⟨.ofCode code, message⟩ : ErrorReport).isSuccess = true ↔ code = 0 := by
    rw [isSuccess, beq_iff_eq]
    exact ErrorKind.ofCode_eq_success_iff
  refine ⟨hsuccess, raised_eq_ok_iff.trans hsuccess, ?_⟩
  intro hcode
  obtain ⟨error, herror⟩ := exists_ofError_eq (Bool.eq_false_iff.2 (mt hsuccess.1 hcode))
  obtain ⟨hkind, hmessage⟩ := ErrorReport.mk.inj herror
  exact ⟨error, raised_eq_error_iff.2 herror, hkind ▸ ErrorKind.code_ofCode code, hmessage, herror⟩

end ErrorReport

namespace TransactionError

/-- The ways in which errors come about: made of a kind, or raised from a report. -/
inductive Obtainable : TransactionError → Prop where
  | made (kind : ErrorKind) (message : String) : Obtainable (ofKind kind message)
  | raised {report : ErrorReport} {error : TransactionError}
      (hraised : report.raised = .error error) : Obtainable error

/-- The error is a failure wherever it is reported. -/
structure StaysFailure (error : TransactionError) : Prop where
  kind_ne : error.kind ≠ .success
  isFailure : (ErrorReport.ofError error).isFailure = true
  raised_again : (ErrorReport.ofError error).raised = .error error

theorem kind_ofKind (kind : ErrorKind) (message : String) :
    (ofKind kind message).kind = if kind = .success then .generic else kind := by
  unfold ofKind
  split <;> rfl

theorem Obtainable.kind_ne {error : TransactionError} (hobtainable : error.Obtainable) :
    error.kind ≠ .success := by
  cases hobtainable with
  | made kind message =>
    rw [kind_ofKind]
    split
    · decide
    · assumption
  | @raised report _ hraised =>
    intro hkind
    have hreport := ErrorReport.raised_eq_error_iff.1 hraised
    have hsuccess : report.isSuccess = true := by
      rw [← hreport]
      exact beq_iff_eq.2 hkind
    rw [ErrorReport.raised_eq_ok_iff.2 hsuccess] at hraised
    cases hraised

theorem Obtainable.staysFailure {error : TransactionError} (hobtainable : error.Obtainable) :
    error.StaysFailure where
  kind_ne := hobtainable.kind_ne
  isFailure := by
    have hnot : (ErrorReport.ofError error).isSuccess = false :=
      beq_eq_false_iff_ne.2 hobtainable.kind_ne
    rw [ErrorReport.isFailure, hnot]
    rfl
  raised_again := ErrorReport.raised_eq_error_iff.2 rfl

end TransactionError

/-- Every code comes through with its message, every kind is found again as far as its code can
tell, and every error is reported and raised again as what it is. -/
theorem status_survives :
    (∀ code message, (ErrorKind.ofCode code).code = code ∧
      ErrorReport.TellsCode ⟨.ofCode code, message⟩ code message) ∧
    (∀ kind : ErrorKind, kind.FoundByCode) ∧
    ∀ error : TransactionError, error.Obtainable → error.StaysFailure :=
  ⟨fun code message => ⟨ErrorKind.code_ofCode code, ErrorReport.tellsCode code message⟩,
    ErrorKind.foundByCode, fun _ hobtainable => hobtainable.staysFailure⟩

/-- A kind that was made unknown with the code of a success is a failure all the same. -/
theorem status_survives_of_unknown_zero :
    let error := TransactionError.ofKind (.unknown 0) "odd"
    error.Obtainable ∧ error.kind.code = 0 ∧ error.StaysFailure ∧
      ErrorKind.ofCode error.kind.code ≠ error.kind := by
  intro error
  have hobtainable : error.Obtainable := .made (.unknown 0) "odd"
  have hfound := status_survives.2.1 error.kind
  refine ⟨hobtainable, rfl, status_survives.2.2 error hobtainable, ?_⟩
  intro hsame
  exact hfound.same_iff.1 hsame ⟨0, by decide, rfl⟩

end TxClient
