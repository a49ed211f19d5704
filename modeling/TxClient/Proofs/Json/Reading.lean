import TxClient.Json.Scalar
import TxClient.Proofs.Json.Grammar
import TxClient.Proofs.Text.Reader

/-!
How readers move over a text. A reader that succeeds passes over a part of the text, and
its position moves over the same part; the small readers that all others are made of do
so token by token. Where a reader fails it matters only that it does.
-/

namespace TxClient.Json

open Text (run_bind_of_ok run_bind_of_error run_map_of_error)

variable {α β : Type} {c : Char} {blanks text rest : List Char} {position : Position}

/-- The position behind a text. -/
def Position.past (position : Position) (text : List Char) : Position :=
  text.foldl .after position

@[simp] theorem Position.past_nil (position : Position) : position.past [] = position := rfl

@[simp] theorem Position.past_cons (position : Position) (c : Char) (text : List Char) :
    position.past (c :: text) = (position.after c).past text := rfl

@[simp] theorem Position.past_append (position : Position) (first second : List Char) :
    position.past (first ++ second) = (position.past first).past second :=
  List.foldl_append

section Failure

/-- The reader fails at a place, whatever the fault. -/
def Fails (reader : Reader α) (cursor : Cursor) : Prop :=
  ∃ error, reader.run cursor = .error error

variable {reader : Reader α} {cursor after : Cursor}

theorem fails_failHere (fault : Fault) : Fails (failHere fault : Reader α) cursor :=
  ⟨_, rfl⟩

theorem fails_failAhead (fault : Fault) : Fails (failAhead fault : Reader α) cursor :=
  ⟨_, rfl⟩

theorem Fails.bind (hfails : Fails reader cursor) (next : α → Reader β) :
    Fails (reader >>= next) cursor := by
  obtain ⟨error, hrun⟩ := hfails
  exact ⟨error, run_bind_of_error hrun next⟩

theorem Fails.map (hfails : Fails reader cursor) (f : α → β) : Fails (f <$> reader) cursor := by
  obtain ⟨error, hrun⟩ := hfails
  exact ⟨error, run_map_of_error hrun f⟩

theorem fails_bind_of_ok {value : α} (hrun : reader.run cursor = .ok (value, after))
    {next : α → Reader β} (hnext : Fails (next value) after) : Fails (reader >>= next) cursor := by
  obtain ⟨error, herror⟩ := hnext
  exact ⟨error, (run_bind_of_ok hrun next).trans herror⟩

/-- A reader fails that cannot but end in a failure, wherever its first part leads. -/
theorem fails_bind_of_forall {next : α → Reader β}
    (hnext : ∀ value after, reader.run cursor = .ok (value, after) → Fails (next value) after) :
    Fails (reader >>= next) cursor := by
  cases hrun : reader.run cursor with
  | error error => exact ⟨error, run_bind_of_error hrun next⟩
  | ok outcome => exact fails_bind_of_ok hrun (hnext outcome.1 outcome.2 hrun)

end Failure

section Tokens

/-- The text does not go on with a blank that may stand between tokens. -/
def EndsBlanks (text : List Char) : Prop :=
  ∀ c, text.head? = some c → isSpace c = false

theorem isSpace_of_areBlanks (hblanks : AreBlanks blanks) : ∀ c ∈ blanks, isSpace c = true := by
  intro c hmem
  rcases hblanks c hmem with rfl | rfl | rfl | rfl <;> rfl

theorem run_peek : peek?.run ⟨rest, position⟩ = .ok (rest.head?, ⟨rest, position⟩) := rfl

theorem run_peek_cons : peek?.run ⟨c :: rest, position⟩ = .ok (some c, ⟨c :: rest, position⟩) := rfl

theorem run_advance : advance.run ⟨c :: rest, position⟩ = .ok ((), ⟨rest, position.after c⟩) := rfl

theorem skipWhile_run {p : Char → Bool} (htext : ∀ c ∈ text, p c = true)
    (hrest : ∀ c, rest.head? = some c → p c = false) :
    Cursor.skipWhile p ⟨text ++ rest, position⟩ = ⟨rest, position.past text⟩ := by
  rw [Cursor.skipWhile, Text.takeWhile_run htext hrest, Text.dropWhile_run htext hrest]
  rfl

theorem run_skipSpaces (hblanks : AreBlanks blanks) (hrest : EndsBlanks rest) :
    skipSpaces.run ⟨blanks ++ rest, position⟩ = .ok ((), ⟨rest, position.past blanks⟩) := by
  change Except.ok ((), Cursor.skipWhile isSpace ⟨blanks ++ rest, position⟩) = _
  rw [skipWhile_run (isSpace_of_areBlanks hblanks) hrest]

/-- The next token is seen behind the blanks before it, which are passed over. -/
theorem run_peekToken (hblanks : AreBlanks blanks) (hrest : EndsBlanks rest) :
    peekToken?.run ⟨blanks ++ rest, position⟩ =
      .ok (rest.head?, ⟨rest, position.past blanks⟩) := by
  rw [peekToken?, run_bind_of_ok (run_skipSpaces hblanks hrest)]
  rfl

theorem endsBlanks_cons (hc : isSpace c = false) : EndsBlanks (c :: rest) := by
  intro other hhead
  rwa [← Option.some.inj hhead]

theorem areBlanks_nil : AreBlanks [] := by
  intro c hmem
  cases hmem

theorem run_peekToken_cons (hblanks : AreBlanks blanks) (hc : isSpace c = false) :
    peekToken?.run ⟨blanks ++ c :: rest, position⟩ =
      .ok (some c, ⟨c :: rest, position.past blanks⟩) :=
  run_peekToken hblanks (endsBlanks_cons hc)

theorem run_peekToken_here (hc : isSpace c = false) :
    peekToken?.run ⟨c :: rest, position⟩ = .ok (some c, ⟨c :: rest, position⟩) :=
  run_peekToken areBlanks_nil (endsBlanks_cons hc)

theorem run_peekToken_nil (hblanks : AreBlanks blanks) :
    peekToken?.run ⟨blanks, position⟩ = .ok (none, ⟨[], position.past blanks⟩) := by
  have hrun : peekToken?.run ⟨blanks ++ [], position⟩ = _ :=
    run_peekToken hblanks (by intro c hc; cases hc)
  rwa [List.append_nil] at hrun

theorem run_readWord (word : List Char) :
    (readWord word).run ⟨word ++ rest, position⟩ = .ok ((), ⟨rest, position.past word⟩) := by
  induction word generalizing position with
  | nil => rfl
  | cons c word ih =>
    rw [List.cons_append, readWord, run_bind_of_ok run_peek_cons]
    simp only [if_true]
    rw [run_bind_of_ok run_advance, ih]
    rfl

theorem run_readColon (hblanks : AreBlanks blanks) :
    readColon.run ⟨blanks ++ ':' :: rest, position⟩ =
      .ok ((), ⟨rest, (position.past blanks).after ':'⟩) := by
  rw [readColon, run_bind_of_ok (run_peekToken_cons hblanks rfl)]
  rfl

end Tokens

end TxClient.Json
