import Mathlib.Data.List.TakeWhile
import TxClient.Proofs.Text.Reader
import TxClient.Text.Blank

/-!
Blanks at the ends of a text. Trimming gives the core of a text: the part with nothing but
blanks before and behind it that begins and ends with none.
-/

namespace TxClient.Text

/-- The characters with the property White_Space, one by one. -/
def whiteSpace : List Char :=
  ['\t', '\n', '\x0b', '\x0c', '\r', ' ', '\u0085', '\u00a0', '\u1680', '\u2000', '\u2001',
    '\u2002', '\u2003', '\u2004', '\u2005', '\u2006', '\u2007', '\u2008', '\u2009', '\u200a',
    '\u2028', '\u2029', '\u202f', '\u205f', '\u3000']

theorem isBlank_iff {c : Char} : isBlank c = true ↔ c ∈ whiteSpace := by
  simp [isBlank, inRanges, blankRanges, whiteSpace, ← Char.toNat_inj]
  omega

theorem isBlank_eq_false_iff {c : Char} : isBlank c = false ↔ c ∉ whiteSpace := by
  rw [← isBlank_iff, Bool.not_eq_true]

/-- What is left of a text without the blanks at either end. -/
structure IsCoreOf (core text : List Char) : Prop where
  between : ∃ front back, text = front ++ core ++ back ∧
    (∀ c ∈ front, c ∈ whiteSpace) ∧ ∀ c ∈ back, c ∈ whiteSpace
  begins : ∀ c, core.head? = some c → c ∉ whiteSpace
  ends : ∀ c, core.getLast? = some c → c ∉ whiteSpace

/-- What the blanks at the start leave over begins with none. -/
theorem head?_trimStart {text : List Char} {c : Char} (hhead : (trimStart text).head? = some c) :
    isBlank c = false := by
  have hnot := List.head?_dropWhile_not isBlank text
  rw [trimStart] at hhead
  rwa [hhead] at hnot

theorem exists_append_trimStart (text : List Char) :
    ∃ front, text = front ++ trimStart text ∧ ∀ c ∈ front, isBlank c = true :=
  ⟨text.takeWhile isBlank, List.takeWhile_append_dropWhile.symm,
    fun _ hmem => List.mem_takeWhile_imp hmem⟩

theorem isCoreOf_trim (text : List Char) : IsCoreOf (trim text) text := by
  obtain ⟨front, hfront, hfrontBlank⟩ := exists_append_trimStart text
  obtain ⟨back, hback, hbackBlank⟩ := exists_append_trimStart (trimStart text).reverse
  have hrest : trimStart text = trim text ++ back.reverse := by
    rw [← List.reverse_reverse (trimStart text), hback, List.reverse_append]
    rfl
  refine ⟨⟨front, back.reverse, ?_, ?_, ?_⟩, ?_, ?_⟩
  · rw [List.append_assoc, ← hrest, ← hfront]
  · exact fun c hmem => isBlank_iff.1 (hfrontBlank c hmem)
  · exact fun c hmem => isBlank_iff.1 (hbackBlank c (List.mem_reverse.1 hmem))
  · intro c hhead
    have hstart : (trimStart text).head? = some c := by
      rw [hrest, List.head?_append, hhead]
      rfl
    exact isBlank_eq_false_iff.1 (head?_trimStart hstart)
  · intro c hlast
    have hstart : (trimStart (trimStart text).reverse).head? = some c := by
      rwa [trim, List.getLast?_reverse] at hlast
    exact isBlank_eq_false_iff.1 (head?_trimStart hstart)

/-- A text has one core only. -/
theorem trim_eq_of_isCoreOf {core text : List Char} (hcore : IsCoreOf core text) :
    trim text = core := by
  obtain ⟨⟨front, back, rfl, hfront, hback⟩, hbegins, hends⟩ := hcore
  have hfrontBlank : ∀ c ∈ front, isBlank c = true := fun c hmem => isBlank_iff.2 (hfront c hmem)
  have hbackBlank : ∀ c ∈ back.reverse, isBlank c = true :=
    fun c hmem => isBlank_iff.2 (hback c (List.mem_reverse.1 hmem))
  cases core with
  | nil =>
    have hall : trimStart (front ++ [] ++ back) = [] := by
      rw [List.append_nil, trimStart, List.dropWhile_append_of_pos hfrontBlank,
        List.dropWhile_eq_nil_iff]
      exact fun c hmem => hbackBlank c (List.mem_reverse.2 hmem)
    rw [trim, hall]
    rfl
  | cons first rest =>
    have hstart : trimStart (front ++ (first :: rest) ++ back) = first :: rest ++ back := by
      rw [List.append_assoc]
      apply dropWhile_run hfrontBlank
      intro c hhead
      exact isBlank_eq_false_iff.2 (hbegins c hhead)
    have hend : trimStart (first :: rest ++ back).reverse = (first :: rest).reverse := by
      rw [List.reverse_append]
      apply dropWhile_run hbackBlank
      intro c hhead
      exact isBlank_eq_false_iff.2 (hends c (List.head?_reverse.symm.trans hhead))
    rw [trim, hstart, hend, List.reverse_reverse]

theorem isCoreOf_iff {core text : List Char} : IsCoreOf core text ↔ trim text = core :=
  ⟨trim_eq_of_isCoreOf, fun htrim => htrim ▸ isCoreOf_trim text⟩

end TxClient.Text
