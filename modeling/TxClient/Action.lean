import TxClient.Event

namespace TxClient

/-- What is left when an action is over: its value, the state it leaves behind, and the events it
caused, in order. -/
structure Outcome (σ α : Type) where
  value : α
  state : σ
  events : List Event

/-- A computation that acts on a state and causes events. It cannot see events that were caused
before. -/
def Action (σ α : Type) : Type :=
  σ → Outcome σ α

namespace Action

variable {σ τ α β : Type}

def run (action : Action σ α) (state : σ) : Outcome σ α :=
  action state

@[ext]
theorem ext {first second : Action σ α} (h : ∀ state, first.run state = second.run state) :
    first = second :=
  funext h

protected def pure (value : α) : Action σ α :=
  fun state => ⟨value, state, []⟩

protected def bind (action : Action σ α) (next : α → Action σ β) : Action σ β :=
  fun state =>
    let first := action.run state
    let second := (next first.value).run first.state
    ⟨second.value, second.state, first.events ++ second.events⟩

instance : Monad (Action σ) where
  pure := Action.pure
  bind := Action.bind

@[simp] theorem run_pure (value : α) (state : σ) :
    (pure value : Action σ α).run state = ⟨value, state, []⟩ := rfl

@[simp] theorem run_bind (action : Action σ α) (next : α → Action σ β) (state : σ) :
    (action >>= next).run state =
      ⟨((next (action.run state).value).run (action.run state).state).value,
        ((next (action.run state).value).run (action.run state).state).state,
        (action.run state).events ++
          ((next (action.run state).value).run (action.run state).state).events⟩ := rfl

instance : LawfulMonad (Action σ) := LawfulMonad.mk' (Action σ)
  (by intro α action; funext state; simp [Functor.map, Action.bind, Action.pure, run])
  (by intro α β value next; ext state; simp)
  (by intro α β γ action next after; ext state; simp)

@[simp] theorem run_map (f : α → β) (action : Action σ α) (state : σ) :
    (f <$> action).run state =
      ⟨f (action.run state).value, (action.run state).state, (action.run state).events⟩ := by
  rw [map_eq_pure_bind, run_bind]
  simp

def get : Action σ σ :=
  fun state => ⟨state, state, []⟩

def modify (change : σ → σ) : Action σ Unit :=
  fun state => ⟨(), change state, []⟩

def emit (event : Event) : Action σ Unit :=
  fun state => ⟨(), state, [event]⟩

@[simp] theorem run_get (state : σ) : (get : Action σ σ).run state = ⟨state, state, []⟩ := rfl

@[simp] theorem run_modify (change : σ → σ) (state : σ) :
    (modify change).run state = ⟨(), change state, []⟩ := rfl

@[simp] theorem run_emit (event : Event) (state : σ) :
    (emit event : Action σ Unit).run state = ⟨(), state, [event]⟩ := rfl

/-- An action on a part of the state. Nothing happens if the part does not exist. -/
def onPart [Inhabited α] (part? : τ → Option σ) (put : σ → τ → τ) (action : Action σ α) :
    Action τ α :=
  fun state =>
    match part? state with
    | none => ⟨default, state, []⟩
    | some part =>
      let outcome := action.run part
      ⟨outcome.value, put outcome.state state, outcome.events⟩

end Action

end TxClient
