import TxClient.Proofs.Json.Reading

/-!
Reading texts between quotes. A text is read as the characters that it spells, however
they are escaped, and it is passed over where its value does not matter.
-/

namespace TxClient.Json

open Text (run_bind_of_ok run_get)

variable {rest : List Char} {position : Position}

theorem run_readWhile {p : Char → Bool} {text : List Char} (htext : ∀ c ∈ text, p c = true)
    (hrest : ∀ c, rest.head? = some c → p c = false) :
    (readWhile p).run ⟨text ++ rest, position⟩ = .ok (text, ⟨rest, position.past text⟩) := by
  change Except.ok ((text ++ rest).takeWhile p, Cursor.skipWhile p ⟨text ++ rest, position⟩) = _
  rw [Text.takeWhile_run htext hrest, skipWhile_run htext hrest]

section Escapes

theorem length_le_byteCountFrom (count : Nat) (text : List Char) :
    count + text.length ≤ text.foldl (fun count c => count + c.utf8Size) count := by
  induction text generalizing count with
  | nil => exact Nat.le_refl _
  | cons c text ih =>
    have hsize := c.utf8Size_pos
    have hrest := ih (count + c.utf8Size)
    simp only [List.length_cons, List.foldl_cons]
    omega

theorem run_readHex {a b c d : Char} {n : Nat} (hhex : WritesHex a b c d n) :
    readHex.run ⟨a :: b :: c :: d :: rest, position⟩ =
      .ok (n, ⟨rest, position.past [a, b, c, d]⟩) := by
  obtain ⟨first, second, third, fourth, ha, hb, hc, hd, rfl⟩ := hhex
  have hbytes : ¬ byteCount (a :: b :: c :: d :: rest) < 4 := by
    have hlength := length_le_byteCountFrom 0 (a :: b :: c :: d :: rest)
    simp only [List.length_cons] at hlength
    unfold byteCount
    omega
  simp [readHex, hbytes, ha, hb, hc, hd]
  rfl

theorem run_readEscape_letter {letter c : Char} (hletter : (letter, c) ∈ escapes) :
    readEscape.run ⟨letter :: rest, position⟩ = .ok (c, ⟨rest, position.after letter⟩) := by
  simp only [escapes, List.mem_cons, List.not_mem_nil, or_false, Prod.mk.injEq] at hletter
  rcases hletter with ⟨rfl, rfl⟩ | ⟨rfl, rfl⟩ | ⟨rfl, rfl⟩ | ⟨rfl, rfl⟩ | ⟨rfl, rfl⟩ |
    ⟨rfl, rfl⟩ | ⟨rfl, rfl⟩ | ⟨rfl, rfl⟩ <;> rfl

/-- An escape is read as the character it spells. -/
theorem run_readEscape {escape : List Char} {c : Char} (hescape : SpellsEscape escape c) :
    readEscape.run ⟨escape ++ rest, position⟩ = .ok (c, ⟨rest, position.past escape⟩) := by
  cases hescape with
  | letter hletter => exact run_readEscape_letter hletter
  | @codePoint a b c d n hhex hplain =>
    have hlow : ¬ (0xdc00 ≤ n ∧ n ≤ 0xdfff) := by omega
    have hhigh : n < 0xd800 ∨ 0xdbff < n := by omega
    change readCodePoint.run ⟨a :: b :: c :: d :: rest, position.after 'u'⟩ = _
    rw [readCodePoint, run_bind_of_ok (run_readHex hhex), if_neg hlow, if_pos hhigh]
    rfl
  | @surrogates a b c d e f g h high low hhigh hhigh_range hlow hlow_range =>
    have hfirst : ¬ (0xdc00 ≤ high ∧ high ≤ 0xdfff) := by omega
    have hpair : ¬ (high < 0xd800 ∨ 0xdbff < high) := by omega
    have hsecond : ¬ (low < 0xdc00 ∨ 0xdfff < low) := by omega
    change readCodePoint.run ⟨a :: b :: c :: d :: '\\' :: 'u' :: e :: f :: g :: h :: rest,
      position.after 'u'⟩ = _
    rw [readCodePoint, run_bind_of_ok (run_readHex hhigh), if_neg hfirst, if_neg hpair,
      run_bind_of_ok run_peek_cons]
    refine (run_bind_of_ok run_advance _).trans ?_
    rw [run_bind_of_ok run_peek_cons]
    refine (run_bind_of_ok run_advance _).trans ?_
    rw [run_bind_of_ok (run_readHex hlow), if_neg hsecond]
    rfl

end Escapes

section Characters

variable {inside meant before escape : List Char} {c : Char}

theorem isPlain_of (hquote : c ≠ '"') (hbackslash : c ≠ '\\') (hcontrol : ' ' ≤ c) :
    isPlain c = true := by
  simp [isPlain, hquote, hbackslash, hcontrol]

/-- What a reader of texts has in front of it: some plain characters, then what is not plain. -/
theorem run_readWhile_isPlain (hbefore : ∀ c ∈ before, isPlain c = true)
    (hc : isPlain c = false) :
    (readWhile isPlain).run ⟨before ++ c :: rest, position⟩ =
      .ok (before, ⟨c :: rest, position.past before⟩) := by
  apply run_readWhile hbefore
  intro other hhead
  rwa [← Option.some.inj hhead]

theorem concat_isPlain (hbefore : ∀ c ∈ before, isPlain c = true) (hc : isPlain c = true) :
    ∀ other ∈ before ++ [c], isPlain other = true := by
  intro other hmem
  rcases List.mem_append.1 hmem with hold | hnew
  · exact hbefore other hold
  · rwa [List.mem_singleton.1 hnew]

theorem run_readTextFrom_quote (hbefore : ∀ c ∈ before, isPlain c = true) (bound : Nat) :
    (readTextFrom (bound + 1)).run ⟨before ++ '"' :: rest, position⟩ =
      .ok (before, ⟨rest, (position.past before).after '"'⟩) := by
  rw [readTextFrom, run_bind_of_ok (run_readWhile_isPlain hbefore rfl),
    run_bind_of_ok run_peek_cons]
  rfl

theorem run_readTextFrom_escape (hbefore : ∀ c ∈ before, isPlain c = true)
    (hescape : SpellsEscape escape c) {bound : Nat} {after : Position}
    (hmore : (readTextFrom bound).run
      ⟨inside, ((position.past before).after '\\').past escape⟩ = .ok (meant, ⟨rest, after⟩)) :
    (readTextFrom (bound + 1)).run ⟨before ++ '\\' :: (escape ++ inside), position⟩ =
      .ok (before ++ c :: meant, ⟨rest, after⟩) := by
  rw [readTextFrom, run_bind_of_ok (run_readWhile_isPlain hbefore rfl),
    run_bind_of_ok run_peek_cons]
  refine (run_bind_of_ok run_advance _).trans ?_
  rw [run_bind_of_ok (run_readEscape hescape), run_bind_of_ok hmore]
  rfl

/-- The plain characters that have been passed over are kept in front, so that the induction is
on the characters and not on the runs of plain ones among them. -/
theorem run_readTextFrom (hinside : SpellsCharacters inside meant) {bound : Nat}
    (hbound : inside.length < bound) (hbefore : ∀ c ∈ before, isPlain c = true) :
    (readTextFrom bound).run ⟨before ++ (inside ++ '"' :: rest), position⟩ =
      .ok (before ++ meant, ⟨rest, position.past (before ++ (inside ++ ['"']))⟩) := by
  induction hinside generalizing bound before position with
  | nil =>
    obtain ⟨bound, rfl⟩ := Nat.exists_eq_succ_of_ne_zero (Nat.ne_of_gt hbound)
    simpa using run_readTextFrom_quote hbefore bound
  | @plain c inside meant hquote hbackslash hcontrol hinside ih =>
    have hshorter : inside.length < bound := Nat.lt_of_succ_lt hbound
    simpa using ih hshorter (concat_isPlain hbefore (isPlain_of hquote hbackslash hcontrol))
  | @escape escape c inside meant hescape hinside ih =>
    obtain ⟨bound, rfl⟩ := Nat.exists_eq_succ_of_ne_zero (Nat.ne_of_gt (Nat.zero_lt_of_lt hbound))
    have hshorter : inside.length < bound := by
      simp only [List.length_cons, List.length_append] at hbound
      omega
    simpa using run_readTextFrom_escape hbefore hescape (ih hshorter (List.forall_mem_nil _))

theorem run_skipTextFrom_quote (hbefore : ∀ c ∈ before, isPlain c = true) (bound : Nat) :
    (skipTextFrom (bound + 1)).run ⟨before ++ '"' :: rest, position⟩ =
      .ok ((), ⟨rest, (position.past before).after '"'⟩) := by
  rw [skipTextFrom, run_bind_of_ok (run_readWhile_isPlain hbefore rfl),
    run_bind_of_ok run_peek_cons]
  rfl

/-- One backslash and what it escapes are passed over. -/
theorem run_skipTextFrom_step (hbefore : ∀ c ∈ before, isPlain c = true)
    (hstep : skipEscape.run ⟨escape ++ inside, (position.past before).after '\\'⟩ =
      .ok ((), ⟨inside, ((position.past before).after '\\').past escape⟩)) (bound : Nat) :
    (skipTextFrom (bound + 1)).run ⟨before ++ '\\' :: (escape ++ inside), position⟩ =
      (skipTextFrom bound).run ⟨inside, ((position.past before).after '\\').past escape⟩ := by
  rw [skipTextFrom, run_bind_of_ok (run_readWhile_isPlain hbefore rfl),
    run_bind_of_ok run_peek_cons]
  refine (run_bind_of_ok run_advance _).trans ?_
  rw [run_bind_of_ok hstep]

theorem run_skipEscape_letter {letter : Char} (hletter : (letter, c) ∈ escapes) :
    skipEscape.run ⟨letter :: rest, position⟩ = .ok ((), ⟨rest, position.after letter⟩) := by
  simp only [escapes, List.mem_cons, List.not_mem_nil, or_false, Prod.mk.injEq] at hletter
  rcases hletter with ⟨rfl, rfl⟩ | ⟨rfl, rfl⟩ | ⟨rfl, rfl⟩ | ⟨rfl, rfl⟩ | ⟨rfl, rfl⟩ |
    ⟨rfl, rfl⟩ | ⟨rfl, rfl⟩ | ⟨rfl, rfl⟩ <;> rfl

theorem run_skipEscape_hex {a b c d : Char} {n : Nat} (hhex : WritesHex a b c d n) :
    skipEscape.run ⟨'u' :: a :: b :: c :: d :: rest, position⟩ =
      .ok ((), ⟨rest, position.past ['u', a, b, c, d]⟩) := by
  rw [skipEscape, run_bind_of_ok run_peek_cons]
  refine (run_bind_of_ok run_advance _).trans ?_
  rw [run_bind_of_ok (run_readHex hhex)]
  rfl

/-- A pair of surrogates is passed over as two escapes, so it takes two of the bound. -/
theorem run_skipTextFrom_escape (hbefore : ∀ c ∈ before, isPlain c = true)
    (hescape : SpellsEscape escape c) {bound : Nat} (hbound : escape.length ≤ bound)
    (position : Position) (inside : List Char) :
    ∃ left, bound < left + escape.length ∧
      (skipTextFrom (bound + 1)).run ⟨before ++ '\\' :: (escape ++ inside), position⟩ =
        (skipTextFrom left).run ⟨inside, ((position.past before).after '\\').past escape⟩ := by
  cases hescape with
  | letter hletter =>
    exact ⟨bound, Nat.lt_succ_self bound,
      run_skipTextFrom_step hbefore (run_skipEscape_letter hletter) bound⟩
  | codePoint hhex =>
    refine ⟨bound, ?_, run_skipTextFrom_step hbefore (run_skipEscape_hex hhex) bound⟩
    exact Nat.lt_add_of_pos_right (Nat.succ_pos _)
  | @surrogates a b c d e f g h high low hhigh _ hlow _ =>
    obtain ⟨left, rfl⟩ := Nat.exists_eq_succ_of_ne_zero (Nat.ne_of_gt (Nat.zero_lt_of_lt hbound))
    refine ⟨left, by simp only [List.length_cons]; omega, ?_⟩
    have hfirst : (skipTextFrom (left + 2)).run ⟨before ++ '\\' ::
        (['u', a, b, c, d] ++ '\\' :: (['u', e, f, g, h] ++ inside)), position⟩ = _ :=
      run_skipTextFrom_step hbefore (run_skipEscape_hex hhigh) (left + 1)
    exact hfirst.trans
      (run_skipTextFrom_step (List.forall_mem_nil _) (run_skipEscape_hex hlow) left)

theorem run_skipTextFrom (hinside : SpellsCharacters inside meant) {bound : Nat}
    (hbound : inside.length < bound) (hbefore : ∀ c ∈ before, isPlain c = true) :
    (skipTextFrom bound).run ⟨before ++ (inside ++ '"' :: rest), position⟩ =
      .ok ((), ⟨rest, position.past (before ++ (inside ++ ['"']))⟩) := by
  induction hinside generalizing bound before position with
  | nil =>
    obtain ⟨bound, rfl⟩ := Nat.exists_eq_succ_of_ne_zero (Nat.ne_of_gt hbound)
    simpa using run_skipTextFrom_quote hbefore bound
  | @plain c inside meant hquote hbackslash hcontrol hinside ih =>
    have hshorter : inside.length < bound := Nat.lt_of_succ_lt hbound
    simpa using ih hshorter (concat_isPlain hbefore (isPlain_of hquote hbackslash hcontrol))
  | @escape escape c inside meant hescape hinside ih =>
    obtain ⟨bound, rfl⟩ := Nat.exists_eq_succ_of_ne_zero (Nat.ne_of_gt (Nat.zero_lt_of_lt hbound))
    simp only [List.length_cons, List.length_append] at hbound
    have hescape_length : escape.length ≤ bound := by omega
    obtain ⟨left, hleft, hskip⟩ := run_skipTextFrom_escape hbefore hescape hescape_length position
      (inside ++ '"' :: rest)
    have hshorter : inside.length < left := by omega
    simpa using hskip.trans (ih hshorter (List.forall_mem_nil _))

end Characters

section Quoted

variable {spelled inside : List Char} {value : String}

theorem quoted_append (inside rest : List Char) :
    '"' :: (inside ++ ['"']) ++ rest = '"' :: (inside ++ '"' :: rest) := by
  rw [List.cons_append, List.append_assoc, List.singleton_append]

theorem length_lt_bound (inside rest : List Char) :
    inside.length < (inside ++ '"' :: rest).length + 1 := by
  rw [List.length_append]
  omega

/-- A text is read with its quotes, as what its characters spell. -/
theorem run_readText (htext : SpellsText spelled value) :
    readText.run ⟨spelled ++ rest, position⟩ = .ok (value, ⟨rest, position.past spelled⟩) := by
  obtain ⟨inside, meant, hinside, rfl, rfl⟩ := htext
  rw [quoted_append, readText]
  refine (run_bind_of_ok run_advance _).trans ?_
  rw [run_bind_of_ok run_get]
  exact run_bind_of_ok (run_readTextFrom hinside (length_lt_bound inside rest)
    (List.forall_mem_nil _)) _

theorem run_skipText (htext : SpellsText spelled value) :
    skipText.run ⟨spelled ++ rest, position⟩ = .ok ((), ⟨rest, position.past spelled⟩) := by
  obtain ⟨inside, meant, hinside, rfl, -⟩ := htext
  rw [quoted_append, skipText]
  refine (run_bind_of_ok run_advance _).trans ?_
  rw [run_bind_of_ok run_get]
  exact run_skipTextFrom hinside (length_lt_bound inside rest) (List.forall_mem_nil _)

end Quoted

end TxClient.Json
