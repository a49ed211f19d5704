import TxClient.Config.File
import TxClient.Proofs.Text.Utf8
import TxClient.Proofs.Config.Decoding

/-!
Configurations in files. A file is read as the text that its bytes encode, and one whose bytes
encode no text is refused whatever stands in front of the fault.
-/

namespace TxClient

namespace Utf8

/-- The bytes are the form that a text has in a file. -/
def IsFormOf (bytes : ByteArray) (text : String) : Prop :=
  Encodes bytes.data.toList text.toList

variable {bytes : ByteArray} {text : String}

theorem isFormOf_iff : IsFormOf bytes text ↔ bytes = text.toUTF8 := by
  have hwritten : text.toUTF8.data.toList = text.toList.flatMap String.utf8EncodeChar := by
    rw [String.toUTF8, ← String.utf8Encode_toList]
    exact List.toList_data_toByteArray
  rw [IsFormOf, encodes_iff, ← hwritten]
  constructor
  · intro hlist
    exact ByteArray.ext (Array.toList_inj.1 hlist)
  · rintro rfl
    rfl

theorem breaks_iff_not_isFormOf : Breaks bytes.data.toList ↔ ∀ text, ¬ IsFormOf bytes text := by
  rw [breaks_iff]
  constructor
  · intro hnone text
    exact hnone text.toList
  · intro hnone chars hchars
    refine hnone (.ofList chars) ?_
    rwa [IsFormOf, String.toList_ofList]

end Utf8

namespace PathTarget

variable {bytes : ByteArray} {text : String}

theorem readText_of_isFormOf (hform : Utf8.IsFormOf bytes text) :
    (file bytes).readText = .ok text := by
  obtain rfl := Utf8.isFormOf_iff.1 hform
  have hread : String.fromUTF8? text.toUTF8 = some text := dif_pos text.isValidUTF8
  simp only [readText, hread]

theorem readText_of_not_isFormOf (hnone : ∀ text, ¬ Utf8.IsFormOf bytes text) :
    (file bytes).readText = .error .notText := by
  have hread : String.fromUTF8? bytes = none := by
    refine dif_neg fun hvalid => ?_
    exact hnone (.ofByteArray bytes hvalid) (Utf8.isFormOf_iff.2 rfl)
  simp only [readText, hread]

end PathTarget

namespace Config

variable {bytes : ByteArray} {text : String}

theorem ofFile_of_isFormOf (hform : Utf8.IsFormOf bytes text) :
    ofFile (.file bytes) = ofJson text := by
  rw [ofFile, PathTarget.readText_of_isFormOf hform]

theorem ofFile_of_not_isFormOf (hnone : ∀ text, ¬ Utf8.IsFormOf bytes text) :
    ofFile (.file bytes) = .error (.file .notText) := by
  rw [ofFile, PathTarget.readText_of_not_isFormOf hnone]

theorem ofFile_eq_notText_iff :
    ofFile (.file bytes) = .error (.file .notText) ↔ Utf8.Breaks bytes.data.toList := by
  rw [Utf8.breaks_iff_not_isFormOf]
  constructor
  · intro hrefused text hform
    rw [ofFile_of_isFormOf hform] at hrefused
    obtain ⟨config, hok⟩ | ⟨error, hjson⟩ := ofJson_ok_or_json text
    · rw [hok] at hrefused
      cases hrefused
    · rw [hjson] at hrefused
      cases hrefused
  · exact ofFile_of_not_isFormOf

/-- What is loaded from a file is what its text gives, be it a configuration or a fault of the
notation, and every text can be in a file. Bytes that are no text are refused as such. They are
those that go on with a fault somewhere, also behind text that would have been accepted. -/
theorem ofFile_agrees_with_ofJson :
    (∀ text : String, Utf8.IsFormOf text.toUTF8 text) ∧
      (∀ bytes text, Utf8.IsFormOf bytes text → ofFile (.file bytes) = ofJson text) ∧
      (∀ bytes, (∀ text, ¬ Utf8.IsFormOf bytes text) →
        ofFile (.file bytes) = .error (.file .notText)) ∧
      (∀ bytes, ofFile (.file bytes) = .error (.file .notText) ↔ Utf8.Breaks bytes.data.toList) ∧
      (ConfigError.file .notText).message = "io error: stream did not contain valid UTF-8" :=
  ⟨fun _ => Utf8.isFormOf_iff.2 rfl, fun _ _ => ofFile_of_isFormOf, fun _ => ofFile_of_not_isFormOf,
    fun _ => ofFile_eq_notText_iff, rfl⟩

section Sample

/-- An empty object behind a mark of the byte order. -/
def markedText : String :=
  "\ufeff\x7b\x7d"

def markedBytes : ByteArray :=
  ⟨#[0xef, 0xbb, 0xbf, 0x7b, 0x7d]⟩

/-- An empty object and, behind it, a zero that is written in two bytes. -/
def overlongBytes : ByteArray :=
  ⟨#[0x7b, 0x7d, 0xc0, 0x80]⟩

theorem breaks_overlongBytes : Utf8.Breaks overlongBytes.data.toList := by
  have hobject : Utf8.Encodes [0x7b, 0x7d] ['{', '}'] := Utf8.encodes_iff.2 (by decide)
  have hzero : Utf8.Writes [0] 0 := .one rfl
  have hlonger : Utf8.Writes [0xc0, 0x80] 0 := .two rfl rfl
  have hfault : Utf8.Fault ([0xc0, 0x80] ++ []) := .overlong hlonger hzero (by decide)
  exact ⟨_, _, _, hobject, hfault, rfl⟩

/-- The mark is part of the text, and the notation does not allow it. Two bytes for a zero are no
text, though the object before them would be accepted. -/
theorem ofFile_agrees_with_ofJson_of_overlong :
    (Utf8.IsFormOf markedBytes markedText ∧ ofFile (.file markedBytes) = ofJson markedText ∧
      ofJson markedText = .error (.json ⟨.expectedValue, ⟨1, 1⟩⟩)) ∧
    ofJson "\x7b\x7d" = .ok standard ∧ (∀ text, ¬ Utf8.IsFormOf overlongBytes text) ∧
      ofFile (.file overlongBytes) = .error (.file .notText) := by
  have hmarked : Utf8.IsFormOf markedBytes markedText := Utf8.encodes_iff.2 (by decide)
  have hnone := Utf8.breaks_iff_not_isFormOf.1 breaks_overlongBytes
  obtain ⟨-, hread, hrefused, -⟩ := ofFile_agrees_with_ofJson
  exact ⟨⟨hmarked, hread _ _ hmarked, rfl⟩, rfl, hnone, hrefused _ hnone⟩

end Sample

end Config

end TxClient
