/-!
Readers of texts take what they read off a state and may fail. How a reader runs is seen
step by step; a run of characters of one kind is read to its end.
-/

namespace TxClient.Text

section Steps

variable {σ ε α β : Type} {reader : StateT σ (Except ε) α} {state after : σ}

theorem run_bind_of_ok {value : α} (hrun : reader.run state = .ok (value, after))
    (next : α → StateT σ (Except ε) β) : (reader >>= next).run state = (next value).run after := by
  rw [StateT.run_bind, hrun]
  rfl

theorem run_bind_of_error {error : ε} (hrun : reader.run state = .error error)
    (next : α → StateT σ (Except ε) β) : (reader >>= next).run state = .error error := by
  rw [StateT.run_bind, hrun]
  rfl

theorem run_get : (get : StateT σ (Except ε) σ).run state = .ok (state, state) := rfl

theorem run_map_of_ok {value : α} (hrun : reader.run state = .ok (value, after)) (f : α → β) :
    (f <$> reader).run state = .ok (f value, after) := by
  rw [StateT.run_map, hrun]
  rfl

theorem run_map_of_error {error : ε} (hrun : reader.run state = .error error) (f : α → β) :
    (f <$> reader).run state = .error error := by
  rw [StateT.run_map, hrun]
  rfl

end Steps

section Runs

variable {p : Char → Bool} {text rest : List Char}

/-- A run of characters is taken as a whole if the rest does not go on with it. -/
theorem takeWhile_run (htext : ∀ c ∈ text, p c = true)
    (hrest : ∀ c, rest.head? = some c → p c = false) : (text ++ rest).takeWhile p = text := by
  rw [List.takeWhile_append_of_pos htext]
  cases rest with
  | nil => simp
  | cons c rest => simp [hrest c rfl]

theorem dropWhile_run (htext : ∀ c ∈ text, p c = true)
    (hrest : ∀ c, rest.head? = some c → p c = false) : (text ++ rest).dropWhile p = rest := by
  rw [List.dropWhile_append_of_pos htext]
  cases rest with
  | nil => rfl
  | cons c rest => simp [hrest c rfl]

end Runs

end TxClient.Text
