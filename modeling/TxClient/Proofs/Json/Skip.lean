import TxClient.Proofs.Json.Opening

/-!
Passing over values. A value of any kind is passed over to its end, however deeply it is nested,
and the reader is then where it would have been after a value without parts.
-/

namespace TxClient.Json

open Text (run_bind_of_ok run_get)

variable {c : Char} {blanks spelled inside rest : List Char} {value : Value} {position : Position}
  {outer : List Bracket}

section Tokens

/-- Blanks in front of a value are passed over with it. -/
theorem skipValue_blanks (bound : Nat) (hblanks : AreBlanks blanks) (hc : isSpace c = false) :
    (skipValue (bound + 1) outer).run ⟨blanks ++ c :: rest, position⟩ =
      (skipValue (bound + 1) outer).run ⟨c :: rest, position.past blanks⟩ := by
  rw [skipValue, run_bind_of_ok (run_peekToken_cons hblanks hc),
    run_bind_of_ok (run_peekToken_here hc)]

theorem skipKey_blanks (hblanks : AreBlanks blanks) (hc : isSpace c = false) :
    skipKey.run ⟨blanks ++ c :: rest, position⟩ =
      skipKey.run ⟨c :: rest, position.past blanks⟩ := by
  rw [skipKey, run_bind_of_ok (run_peekToken_cons hblanks hc),
    run_bind_of_ok (run_peekToken_here hc)]

theorem run_skipKey {name : List Char} {key : String} (hkey : SpellsKey name key) :
    skipKey.run ⟨name ++ rest, position⟩ = .ok ((), ⟨rest, position.past name⟩) := by
  obtain ⟨before, text, after, hbefore, htext, hafter, rfl⟩ := hkey
  obtain ⟨more, hmore⟩ := htext.opens
  have hskip : skipText.run ⟨text ++ (after ++ ':' :: rest), position.past before⟩ = _ :=
    run_skipText htext
  rw [hmore] at hskip ⊢
  simp only [List.append_assoc, List.cons_append, List.nil_append] at hskip ⊢
  rw [skipKey, run_bind_of_ok (run_peekToken_cons hbefore rfl)]
  refine (run_bind_of_ok hskip _).trans ?_
  rw [run_readColon hafter]
  simp

/-- Pass over the key of a member, if the bracket holds members, and go on with the value. -/
def skipItem (bracket : Bracket) (bound : Nat) (outer : List Bracket) : Reader Unit := do
  if bracket = .object then skipKey
  skipValue bound (bracket :: outer)

/-- After a value another one follows inside the same bracket. -/
theorem run_skipRest_comma (bracket : Bracket) (bound : Nat) (hblanks : AreBlanks blanks) :
    (skipRest (bound + 1) (bracket :: outer)).run ⟨blanks ++ ',' :: rest, position⟩ =
      (skipItem bracket bound outer).run ⟨rest, (position.past blanks).after ','⟩ := by
  rw [skipRest, run_bind_of_ok (run_peekToken_cons hblanks rfl)]
  rfl

/-- After its last value a bracket is closed. -/
theorem run_skipRest_close (bracket : Bracket) (bound : Nat) (hblanks : AreBlanks blanks) :
    (skipRest (bound + 1) (bracket :: outer)).run ⟨blanks ++ bracket.close :: rest, position⟩ =
      (skipRest bound outer).run ⟨rest, (position.past blanks).after bracket.close⟩ := by
  have hclose : isSpace bracket.close = false := by cases bracket <;> rfl
  rw [skipRest, run_bind_of_ok (run_peekToken_cons hblanks hclose)]
  cases bracket <;> rfl

end Tokens

section Values

/-- The reader passes over a text and goes on with what follows inside the brackets that are
open, with a bound that still covers it. -/
def PassesOver (reader : Reader Unit) (outer : List Bracket) (position : Position)
    (text rest : List Char) : Prop :=
  ∃ left, rest.length < left ∧
    reader.run ⟨text ++ rest, position⟩ = (skipRest left outer).run ⟨rest, position.past text⟩

variable {reader : Reader Unit} {bracket : Bracket} {bound : Nat} {text others : List Char}

theorem PassesOver.close (hblanks : AreBlanks blanks)
    (hpasses : PassesOver reader (bracket :: outer) position text
      (blanks ++ bracket.close :: rest)) :
    PassesOver reader outer position (text ++ (blanks ++ [bracket.close])) rest := by
  obtain ⟨left, hleft, hrun⟩ := hpasses
  simp only [List.length_append, List.length_cons] at hleft
  obtain ⟨left, rfl⟩ := Nat.exists_eq_succ_of_ne_zero (Nat.ne_of_gt (Nat.zero_lt_of_lt hleft))
  refine ⟨left, by omega, ?_⟩
  rw [run_skipRest_close bracket left hblanks] at hrun
  simpa using hrun

theorem PassesOver.comma (hblanks : AreBlanks blanks)
    (hpasses : PassesOver reader (bracket :: outer) position text
      (blanks ++ ',' :: (others ++ rest)))
    (hothers : ∀ left position, others.length + rest.length < left →
      PassesOver (skipItem bracket left outer) outer position others rest) :
    PassesOver reader outer position (text ++ (blanks ++ ',' :: others)) rest := by
  obtain ⟨left, hleft, hrun⟩ := hpasses
  simp only [List.length_append, List.length_cons] at hleft
  obtain ⟨left, rfl⟩ := Nat.exists_eq_succ_of_ne_zero (Nat.ne_of_gt (Nat.zero_lt_of_lt hleft))
  rw [run_skipRest_comma bracket left hblanks] at hrun
  have hbound : others.length + rest.length < left := by omega
  obtain ⟨last, hlast, hitem⟩ := hothers left (((position.past text).past blanks).after ',') hbound
  refine ⟨last, hlast, ?_⟩
  simpa using hrun.trans hitem

theorem PassesOver.behind_blanks (hbound : 0 < bound) (hblanks : AreBlanks blanks)
    (hspells : Spells spelled value)
    (hpasses : PassesOver (skipValue bound outer) outer (position.past blanks) spelled rest) :
    PassesOver (skipValue bound outer) outer position (blanks ++ spelled) rest := by
  obtain ⟨bound, rfl⟩ := Nat.exists_eq_succ_of_ne_zero (Nat.ne_of_gt hbound)
  obtain ⟨c, more, rfl, hopens⟩ := hspells.opens
  obtain ⟨left, hleft, hrun⟩ := hpasses
  refine ⟨left, hleft, ?_⟩
  rw [List.append_assoc, List.cons_append, skipValue_blanks bound hblanks hopens.visible.1]
  simpa using hrun

theorem PassesOver.behind_key {name : List Char} {key : String} {enclosing : List Bracket}
    (hkey : SpellsKey name key)
    (hpasses : PassesOver (skipValue bound (.object :: outer)) enclosing (position.past name) text
      rest) :
    PassesOver (skipItem .object bound outer) enclosing position (name ++ text) rest := by
  obtain ⟨left, hleft, hrun⟩ := hpasses
  refine ⟨left, hleft, ?_⟩
  rw [List.append_assoc, skipItem]
  refine (run_bind_of_ok (run_skipKey hkey) _).trans ?_
  simpa using hrun

/-- A value without parts takes one of the bound. -/
theorem passesOver_word (word : List Char)
    (hstart : (skipValue (bound + 1) outer).run ⟨c :: (word ++ rest), position⟩ =
      (readWord word >>= fun _ => skipRest bound outer).run ⟨word ++ rest, position.after c⟩)
    (hbound : rest.length < bound) :
    PassesOver (skipValue (bound + 1) outer) outer position (c :: word) rest :=
  ⟨bound, hbound, hstart.trans (run_bind_of_ok (run_readWord word) _)⟩

theorem passesOver_number (literal : Literal) (hrest : EndsNumber rest)
    (hbound : rest.length < bound) :
    PassesOver (skipValue (bound + 1) outer) outer position literal.text rest := by
  refine ⟨bound, hbound, ?_⟩
  unfold Literal.text
  split
  · rw [skipValue, List.cons_append, run_bind_of_ok (run_peekToken_here rfl)]
    refine (run_bind_of_ok run_advance _).trans ?_
    exact run_bind_of_ok (run_skipNumber literal hrest) _
  · have hskip : skipNumber.run ⟨literal.unsignedText ++ rest, position⟩ = _ :=
      run_skipNumber literal hrest
    obtain ⟨c, more, hmore, hc⟩ := literal.unsigned_opens
    rw [hmore, List.cons_append] at hskip ⊢
    rw [skipValue, run_bind_of_ok (run_peekToken_here (isSpace_of_isDigit hc))]
    split
    case h_9 c' heq =>
      cases heq
      rw [if_pos hc]
      exact run_bind_of_ok hskip _
    case h_1 heq => cases heq
    all_goals
      cases Option.some.inj ‹some c = some _›
      exact absurd hc (by decide)

theorem passesOver_text {value : String} (htext : SpellsText spelled value)
    (hbound : rest.length < bound) :
    PassesOver (skipValue (bound + 1) outer) outer position spelled rest := by
  obtain ⟨inside, hquoted⟩ := htext.opens
  have hskip : skipText.run ⟨spelled ++ rest, position⟩ = _ := run_skipText htext
  refine ⟨bound, hbound, ?_⟩
  rw [hquoted, List.cons_append] at hskip ⊢
  rw [skipValue, run_bind_of_ok (run_peekToken_here rfl)]
  exact run_bind_of_ok hskip _

theorem passesOver_emptyArray (hblanks : AreBlanks blanks) (hbound : rest.length < bound) :
    PassesOver (skipValue (bound + 1) outer) outer position ('[' :: (blanks ++ [']'])) rest := by
  refine ⟨bound, hbound, ?_⟩
  rw [List.cons_append, List.append_assoc, List.singleton_append, skipValue,
    run_bind_of_ok (run_peekToken_here rfl)]
  refine (run_bind_of_ok run_advance _).trans ?_
  rw [run_bind_of_ok (run_peekToken_cons hblanks rfl)]
  refine (run_bind_of_ok run_advance _).trans ?_
  simp

theorem passesOver_emptyObject (hblanks : AreBlanks blanks) (hbound : rest.length < bound) :
    PassesOver (skipValue (bound + 1) outer) outer position ('{' :: (blanks ++ ['}'])) rest := by
  refine ⟨bound, hbound, ?_⟩
  rw [List.cons_append, List.append_assoc, List.singleton_append, skipValue,
    run_bind_of_ok (run_peekToken_here rfl)]
  refine (run_bind_of_ok run_advance _).trans ?_
  rw [run_bind_of_ok (run_peekToken_cons hblanks rfl)]
  refine (run_bind_of_ok run_advance _).trans ?_
  simp

/-- The opening bracket of an array that is not empty. -/
theorem passesOver_array {values : List Value} (hinside : SpellsElements inside values)
    (hpasses : PassesOver (skipItem .array (bound + 1) outer) outer (position.after '[')
      (inside ++ [']']) rest) :
    PassesOver (skipValue (bound + 2) outer) outer position ('[' :: (inside ++ [']'])) rest := by
  obtain ⟨blanks, c, more, hblanks, hc, hclose, rfl⟩ := hinside.opens
  obtain ⟨left, hleft, hrun⟩ := hpasses
  refine ⟨left, hleft, ?_⟩
  simp only [List.append_assoc, List.cons_append] at hrun ⊢
  rw [skipValue, run_bind_of_ok (run_peekToken_here rfl)]
  refine (run_bind_of_ok run_advance _).trans ?_
  rw [run_bind_of_ok (run_peekToken_cons hblanks hc)]
  split
  · cases ‹some c = none›
  · exact absurd (Option.some.inj ‹_›) hclose
  · exact (skipValue_blanks bound hblanks hc).symm.trans hrun

theorem passesOver_object {members : List (String × Value)} (hinside : SpellsMembers inside members)
    (hpasses : PassesOver (skipItem .object bound outer) outer (position.after '{')
      (inside ++ ['}']) rest) :
    PassesOver (skipValue (bound + 1) outer) outer position ('{' :: (inside ++ ['}'])) rest := by
  obtain ⟨blanks, more, hblanks, rfl⟩ := hinside.opens
  obtain ⟨left, hleft, hrun⟩ := hpasses
  refine ⟨left, hleft, ?_⟩
  simp only [List.append_assoc, List.cons_append] at hrun ⊢
  rw [skipValue, run_bind_of_ok (run_peekToken_here rfl)]
  refine (run_bind_of_ok run_advance _).trans ?_
  refine (run_bind_of_ok (run_peekToken_cons hblanks rfl) _).trans ?_
  rw [skipItem] at hrun
  refine Eq.trans ?_ hrun
  change (skipKey >>= fun _ => skipValue bound (.object :: outer)).run _ =
    (skipKey >>= fun _ => skipValue bound (.object :: outer)).run _
  rw [StateT.run_bind, StateT.run_bind, skipKey_blanks hblanks rfl]

/-- A value takes one of the bound at least. -/
theorem exists_bound_eq_succ {spelled : List Char} {value : Value} (hspells : Spells spelled value)
    (hbound : spelled.length + rest.length < bound) :
    ∃ less, bound = less + 1 ∧ rest.length < less := by
  obtain ⟨c, more, rfl, -⟩ := hspells.opens
  rw [List.length_cons] at hbound
  exact ⟨bound - 1, by omega, by omega⟩

mutual

theorem passesOver_value {bound : Nat} {outer : List Bracket} {position : Position}
    {spelled rest : List Char} {value : Value} (hbound : spelled.length + rest.length < bound)
    (hrest : EndsNumber rest) :
    Spells spelled value → PassesOver (skipValue bound outer) outer position spelled rest
  | .null => by
    obtain ⟨less, rfl, hless⟩ := exists_bound_eq_succ .null hbound
    exact passesOver_word ['u', 'l', 'l'] rfl hless
  | .true => by
    obtain ⟨less, rfl, hless⟩ := exists_bound_eq_succ .true hbound
    exact passesOver_word ['r', 'u', 'e'] rfl hless
  | .false => by
    obtain ⟨less, rfl, hless⟩ := exists_bound_eq_succ .false hbound
    exact passesOver_word ['a', 'l', 's', 'e'] rfl hless
  | .number literal => by
    obtain ⟨less, rfl, hless⟩ := exists_bound_eq_succ (.number literal) hbound
    exact passesOver_number literal hrest hless
  | .text htext => by
    obtain ⟨less, rfl, hless⟩ := exists_bound_eq_succ (.text htext) hbound
    exact passesOver_text htext hless
  | .emptyArray hblanks => by
    obtain ⟨less, rfl, hless⟩ := exists_bound_eq_succ (.emptyArray hblanks) hbound
    exact passesOver_emptyArray hblanks hless
  | .emptyObject hblanks => by
    obtain ⟨less, rfl, hless⟩ := exists_bound_eq_succ (.emptyObject hblanks) hbound
    exact passesOver_emptyObject hblanks hless
  | .array hinside => by
    simp only [List.length_cons, List.length_append] at hbound
    obtain ⟨less, rfl⟩ : ∃ less, bound = less + 2 := ⟨bound - 2, by omega⟩
    exact passesOver_array hinside (passesOver_elements (by omega) hinside)
  | .object hinside => by
    simp only [List.length_cons, List.length_append] at hbound
    obtain ⟨less, rfl⟩ : ∃ less, bound = less + 1 := ⟨bound - 1, by omega⟩
    exact passesOver_object hinside (passesOver_members (by omega) hinside)

theorem passesOver_elements {bound : Nat} {outer : List Bracket} {position : Position}
    {inside rest : List Char} {values : List Value}
    (hbound : inside.length + 1 + rest.length < bound) :
    SpellsElements inside values →
      PassesOver (skipItem .array bound outer) outer position (inside ++ [']']) rest
  | @SpellsElements.last before spelled after value hbefore hvalue hafter => by
    simp only [List.length_append] at hbound
    have hitem : PassesOver (skipItem .array bound outer) (.array :: outer) position
        (before ++ spelled) (after ++ ']' :: rest) := by
      refine PassesOver.behind_blanks (by omega) hbefore hvalue (passesOver_value ?_ ?_ hvalue)
      · simp only [List.length_append, List.length_cons]
        omega
      · exact endsNumber_of_areBlanks hafter (endsNumber_close .array)
    simpa [Bracket.close] using hitem.close hafter
  | @SpellsElements.more before spelled after others value values hbefore hvalue hafter
      hothers => by
    simp only [List.length_append, List.length_cons] at hbound
    have hitem : PassesOver (skipItem .array bound outer) (.array :: outer) position
        (before ++ spelled) (after ++ ',' :: ((others ++ [']']) ++ rest)) := by
      refine PassesOver.behind_blanks (by omega) hbefore hvalue (passesOver_value ?_ ?_ hvalue)
      · simp only [List.length_append, List.length_cons, List.length_nil]
        omega
      · exact endsNumber_of_areBlanks hafter endsNumber_comma
    have hmore := hitem.comma hafter fun left position hleft =>
      passesOver_elements (by simpa using hleft) hothers
    simpa using hmore

theorem passesOver_members {bound : Nat} {outer : List Bracket} {position : Position}
    {inside rest : List Char} {members : List (String × Value)}
    (hbound : inside.length + 1 + rest.length < bound) :
    SpellsMembers inside members →
      PassesOver (skipItem .object bound outer) outer position (inside ++ ['}']) rest
  | @SpellsMembers.last name before spelled after key value hkey hbefore hvalue hafter => by
    simp only [List.length_append] at hbound
    have hitem : PassesOver (skipItem .object bound outer) (.object :: outer) position
        (name ++ (before ++ spelled)) (after ++ '}' :: rest) := by
      refine PassesOver.behind_key hkey (PassesOver.behind_blanks (by omega) hbefore hvalue
        (passesOver_value ?_ ?_ hvalue))
      · simp only [List.length_append, List.length_cons]
        omega
      · exact endsNumber_of_areBlanks hafter (endsNumber_close .object)
    simpa [Bracket.close] using hitem.close hafter
  | @SpellsMembers.more name before spelled after others key value members hkey hbefore hvalue
      hafter hothers => by
    simp only [List.length_append, List.length_cons] at hbound
    have hitem : PassesOver (skipItem .object bound outer) (.object :: outer) position
        (name ++ (before ++ spelled)) (after ++ ',' :: ((others ++ ['}']) ++ rest)) := by
      refine PassesOver.behind_key hkey (PassesOver.behind_blanks (by omega) hbefore hvalue
        (passesOver_value ?_ ?_ hvalue))
      · simp only [List.length_append, List.length_cons, List.length_nil]
        omega
      · exact endsNumber_of_areBlanks hafter endsNumber_comma
    have hmore := hitem.comma hafter fun left position hleft =>
      passesOver_members (by simpa using hleft) hothers
    simpa using hmore

end

/-- Any value is passed over, with blanks in front of it. -/
theorem run_skip (hblanks : AreBlanks blanks) (hspells : Spells spelled value)
    (hrest : EndsNumber rest) :
    skip.run ⟨blanks ++ (spelled ++ rest), position⟩ =
      .ok ((), ⟨rest, position.past (blanks ++ spelled)⟩) := by
  have hbound : spelled.length + rest.length < (blanks ++ (spelled ++ rest)).length + 1 := by
    simp only [List.length_append]
    omega
  obtain ⟨left, -, hrun⟩ : PassesOver (skipValue ((blanks ++ (spelled ++ rest)).length + 1) []) []
      position (blanks ++ spelled) rest :=
    PassesOver.behind_blanks (Nat.succ_pos _) hblanks hspells
      (passesOver_value hbound hrest hspells)
  have hend : (skipRest left []).run ⟨rest, position.past (blanks ++ spelled)⟩ =
      .ok ((), ⟨rest, position.past (blanks ++ spelled)⟩) := by
    cases left <;> rfl
  rw [List.append_assoc] at hrun
  rw [skip, run_bind_of_ok run_get]
  exact hrun.trans hend

end Values

end TxClient.Json
