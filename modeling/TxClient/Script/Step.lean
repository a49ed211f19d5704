import TxClient.Config.Basic
import TxClient.Local.World
import TxClient.Replay.Backend

namespace TxClient.Script

/-- How an operation is called, and what becomes of its failure. -/
inductive Form where
  | raising
  /-- The report with the given name is filled. -/
  | reporting (report : String)
  deriving DecidableEq, Repr

/-- The kinds of things that can be copied, dropped and inspected by name. -/
inductive Kind where
  | handle
  | facade
  | localBackend
  deriving DecidableEq, Repr

/-- What a step does, other than running steps in a transaction. -/
inductive Instruction where
  | putReport (id : String) (report : ErrorReport)
  | getReport (id : String)
  | newLocal (id : String)
  | newSession (id : String) (session : Replay.Session)
  /-- A backend whose answers name their sessions. -/
  | newBackend (id : String) (backend : Replay.Backend String)
  | newHandle (id : String) (session? : Option String)
  | newFacade (id : String) (backend? : Option String) (config : Config)
  | copy (kind : Kind) (id source : String)
  | drop (kind : Kind) (id : String)
  | start (facade handle : String) (options? : Option TxOptions) (form : Form)
  | getTx (facade handle : String) (form : Form)
  | metrics (facade : String) (form : Form)
  | resetMetrics (facade : String) (form : Form)
  | config (facade : String)
  | session (handle : String) (op : SessionOp) (form : Form)
  /-- Ask the session of a handle itself, with the report of the given name as it is. -/
  | directSession (handle : String) (op : SessionOp) (report : String)
  | same (first second : String)
  | inspect (handle : String)
  | activeCount (backend : String)
  | currentSession (backend : String) (handle? : Option String)
  /-- Ask a local backend itself, with the report of the given name as it is. -/
  | directStart (backend handle : String) (options : TxOptions) (report : String)
  | directCurrent (backend handle report : String)
  | directMetrics (backend report : String)
  | directReset (backend report : String)
  | calls (double : String)
  | debugText (kind : Kind) (id : String)
  /-- Ask all the handles and all the local backends. -/
  | dump
  /-- Let a little more time pass than the given one. -/
  | sleep (millis : Nat)

/-- A step of a script. The bodies of transactions succeed with values in `ρ`. -/
inductive Step (ρ : Type) where
  /-- An instruction, on the current thread or on the given one. In a body, a failure that a
  `tried` step raises ends the body. -/
  | plain (thread? : Option ThreadId) (tried : Bool) (instruction : Instruction)
  /-- Run the steps of the body in a transaction of their own, whose handle gets a name. After the
  steps the body ends as given. -/
  | within (thread? : Option ThreadId) (tried : Bool) (facade handle : String)
      (options? : Option TxOptions) (body : List (Step ρ)) (ending : Except TransactionError ρ)

/-- The failure that a step raises ends the body that it stands in. -/
def Step.isTried {ρ : Type} : Step ρ → Bool
  | plain _ tried _ => tried
  | within _ tried .. => tried

inductive Value where
  | nothing
  | flag (value : Bool)
  | state (value : TxState)
  | handle (usable : Bool) (tx? : Option SessionId)
  | metrics (value : Metrics)
  deriving DecidableEq, Repr

structure HandleView where
  usable : Bool
  state : TxState
  rollbackOnly : Bool
  /-- Only known of local sessions. -/
  closed? : Option Bool
  deriving DecidableEq, Repr

inductive Answer (ρ : Type) where
  /-- The step names something that is not there, and has done nothing. -/
  | missing (name : String)
  | report (report : ErrorReport)
  | reportText (report : ErrorReport)
  | made
  | copied
  | slept
  | dropped (present : Bool)
  | usable (value : Bool)
  | active (count : Nat)
  | value (value : Value)
  | raised (error : TransactionError)
  | filled (value : Value) (report : ErrorReport)
  /-- A handle that refers to no session was to be asked directly. -/
  | noSession
  | config (config : Config)
  | same (value : Bool)
  | inspection (usable : Bool) (session? : Option (SessionId × Local.Session))
  | current (tx? : Option SessionId)
  | sessionCalls (calls : List SessionOp)
  | backendCalls (calls : List Replay.BackendCall)
  | text (value : String)
  | overview (handles : List (String × HandleView)) (backends : List (String × Nat × Metrics))
  /-- The result of a transaction with a body, and the answers of the steps in it if it was
  run. -/
  | within (result : Except TransactionError ρ) (body? : Option (List (Answer ρ)))

/-- The failure that a step has raised. -/
def Answer.raised? {ρ : Type} : Answer ρ → Option TransactionError
  | raised error => some error
  | within (.error error) _ => some error
  | _ => none

end TxClient.Script
