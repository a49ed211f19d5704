import TxClient.Script.Instruction

namespace TxClient.Script

variable {ρ : Type}

/-- What becomes of the steps of a body: their answers, and the failure that ended them early. -/
abbrev BodyOutcome (ρ : Type) := List (Answer ρ) × Option TransactionError

/-- Run a body as the body of a transaction whose handle gets a name. Its answers are kept even
when the transaction fails. -/
def bodyOf (handle : String) (body : Work ρ (BodyOutcome ρ)) (ending : Except TransactionError ρ)
    (tx : Transaction SessionRef) : Attempt (Workspace ρ) ρ := ExceptT.mk do
  Action.modify (keepHandle handle tx)
  let (answers, failure?) ← body
  Action.modify fun space => { space with body? := some answers }
  match failure? with
  | some error => return .error error
  | none => return ending

/-- Run a body in a transaction of its own. The backend stays while the body runs, even if all its
names are taken away. -/
def runWithin (thread : ThreadId) (facade handle : String) (options? : Option TxOptions)
    (body : Work ρ (BodyOutcome ρ)) (ending : Except TransactionError ρ) : Work ρ (Answer ρ) :=
  withNamed (·.facades) facade fun txs => do
    let inUse := (← Action.get).inUse
    Action.modify fun space =>
      { space with inUse := txs.backend?.toList ++ inUse, body? := none }
    let result ←
      match options? with
      | some options => (txs.transactWith thread options (bodyOf handle body ending)).run
      | none => (txs.transact thread (bodyOf handle body ending)).run
    let body? := (← Action.get).body?
    Action.modify fun space => { space with inUse }.retireUnused
    return .within result body?

mutual

/-- Run a step; without a thread of its own it runs on the given one. -/
def Step.run (current : ThreadId) : Step ρ → Work ρ (Answer ρ)
  | .plain thread? _ instruction => do
    let answer ← instruction.run (thread?.getD current)
    Action.modify Workspace.retireUnused
    return answer
  | .within thread? _ facade handle options? body ending =>
    let thread := thread?.getD current
    runWithin thread facade handle options? (runBody thread body) ending

/-- Run the steps of a body, until one of those that are `tried` raises a failure. -/
def runBody (thread : ThreadId) : List (Step ρ) → Work ρ (BodyOutcome ρ)
  | [] => return ([], none)
  | step :: rest => do
    let answer ← step.run thread
    match if step.isTried then answer.raised? else none with
    | some error => return ([answer], some error)
    | none => do
      let (answers, failure?) ← runBody thread rest
      return (answer :: answers, failure?)

end

/-- Run steps one after the other from the given workspace: what each answers, and what events it
causes. -/
def runFrom (space : Workspace ρ) : List (Step ρ) → List (Answer ρ × List Event)
  | [] => []
  | step :: rest =>
    let outcome := (step.run ⟨0⟩).run space
    (outcome.value, outcome.events) :: runFrom outcome.state rest

def run (steps : List (Step ρ)) : List (Answer ρ × List Event) :=
  runFrom .initial steps

end TxClient.Script
