import TxClient.Script.Workspace

namespace TxClient.Script

variable {ρ α : Type}

/-- What is done in a workspace. -/
abbrev Work (ρ : Type) := Action (Workspace ρ)

/-- Go on with what has the given name; without it nothing is done. -/
def withNamed (slots : Workspace ρ → Slots α) (name : String) (next : α → Work ρ (Answer ρ)) :
    Work ρ (Answer ρ) := do
  match (slots (← Action.get)).get? name with
  | some found => next found
  | none => return .missing name

/-- Make a call with the report of the given name as it is, or with a success if there is none. -/
def callOn (name : String) (call : Call (Workspace ρ) α) :
    Work ρ (α × ErrorReport) := do
  let report := ((← Action.get).reports.get? name).getD .success
  let (value, filled) ← call.run report
  Action.modify fun space => { space with reports := space.reports.put name filled }
  return (value, filled)

/-- Make a call in the given form. A value that is answered is kept as well. -/
def inForm (form : Form) (call : Call (Workspace ρ) α) (view : α → Value)
    (keep : α → Workspace ρ → Workspace ρ) : Work ρ (Answer ρ) := do
  match form with
  | .raising =>
    match ← call.raise.run with
    | .ok value =>
      Action.modify (keep value)
      return .value (view value)
    | .error error => return .raised error
  | .reporting name =>
    let (value, report) ← callOn name call
    Action.modify (keep value)
    return .filled (view value) report

/-- Make a call with the report of the given name as it is. The value is kept in any case. -/
def directly (name : String) (call : Call (Workspace ρ) α) (view : α → Value)
    (keep : α → Workspace ρ → Workspace ρ) : Work ρ (Answer ρ) := do
  let (value, report) ← callOn name call
  Action.modify (keep value)
  return .filled (view value) report

/-- Nothing is kept of a value. -/
def keepNothing (_ : α) (space : Workspace ρ) : Workspace ρ :=
  space

def keepHandle (name : String) (tx : Transaction SessionRef) (space : Workspace ρ) :
    Workspace ρ :=
  { space with handles := space.handles.put name tx }

def handleValue (tx : Transaction SessionRef) : Value :=
  .handle tx.isUsable (tx.session?.bind (·.localId?))

/-- What is shown of the answer to a session operation. -/
def resultValue : (op : SessionOp) → op.Result → Value
  | .isRollbackOnly => .flag
  | .state => .state
  | .commit | .rollback | .close | .setRollbackOnly => fun _ => .nothing

/-- The prepared answers of a backend, with the sessions that their names stand for. The first name
that stands for nothing is the failure. -/
def resolve (space : Workspace ρ) :
    List (Option String × Option ErrorReport) →
      Except String (List (Option SessionRef × Option ErrorReport))
  | [] => .ok []
  | (none, report) :: rest => do
    return (none, report) :: (← resolve space rest)
  | (some name, report) :: rest =>
    match space.sessionNamed? name with
    | none => .error name
    | some session => do
      return (session, report) :: (← resolve space rest)

/-- The backend whose prepared answers name their sessions. -/
def resolveBackend (space : Workspace ρ) (backend : Replay.Backend String) :
    Except String (Replay.Backend SessionRef) := do
  let starts ← resolve space backend.starts
  let currents ← resolve space backend.currents
  return { backend with starts, currents }

def newLocal (id : String) : Work ρ (Answer ρ) := do
  Action.modify fun space =>
    { space with
      world := space.world.addBackend
      locals := space.locals.put id space.world.nextBackend }
  return .active 0

def newSession (id : String) (session : Replay.Session) : Work ρ (Answer ρ) := do
  Action.modify fun space =>
    { space with
      sessionDoubles := space.sessionDoubles.push session
      sessions := space.sessions.put id space.sessionDoubles.size }
  return .made

def newBackend (id : String) (backend : Replay.Backend String) : Work ρ (Answer ρ) := do
  match resolveBackend (← Action.get) backend with
  | .error name => return .missing name
  | .ok backend =>
    Action.modify fun space =>
      { space with
        backendDoubles := space.backendDoubles.push backend
        backends := space.backends.put id space.backendDoubles.size }
    return .made

def newHandle (id : String) (session? : Option String) : Work ρ (Answer ρ) := do
  let space ← Action.get
  let keep (tx : Transaction SessionRef) : Work ρ (Answer ρ) := do
    Action.modify (keepHandle id tx)
    return .usable tx.isUsable
  match session? with
  | none => keep .unusable
  | some name =>
    match space.sessionNamed? name with
    | some session => keep ⟨session⟩
    | none => return .missing name

/-- Give a name to a new facade. One without a backend has the standard defaults. -/
def newFacade (id : String) (backend? : Option String) (config : Config) : Work ρ (Answer ρ) := do
  let space ← Action.get
  let keep (txs : Transactions BackendRef) : Work ρ (Answer ρ) := do
    Action.modify fun space => { space with facades := space.facades.put id txs }
    return .usable txs.isUsable
  match backend? with
  | none => keep .unusable
  | some name =>
    match space.backendNamed? name with
    | some backend => keep ⟨backend, config⟩
    | none => return .missing name

def copy : Kind → (id source : String) → Work ρ (Answer ρ)
  | .handle, id, source => withNamed (·.handles) source fun tx => do
    Action.modify (keepHandle id tx)
    return .copied
  | .facade, id, source => withNamed (·.facades) source fun txs => do
    Action.modify fun space => { space with facades := space.facades.put id txs }
    return .copied
  | .localBackend, id, source => withNamed (·.locals) source fun backend => do
    Action.modify fun space => { space with locals := space.locals.put id backend }
    return .copied

def drop (kind : Kind) (id : String) : Work ρ (Answer ρ) := do
  let space ← Action.get
  match kind with
  | .handle =>
    Action.modify fun space => { space with handles := space.handles.erase id }
    return .dropped (space.handles.get? id).isSome
  | .facade =>
    Action.modify fun space => { space with facades := space.facades.erase id }
    return .dropped (space.facades.get? id).isSome
  | .localBackend =>
    Action.modify fun space => { space with locals := space.locals.erase id }
    return .dropped (space.locals.get? id).isSome

/-- Ask the session of a handle itself. -/
def directSession (handle : String) (op : SessionOp) (report : String) : Work ρ (Answer ρ) :=
  withNamed (·.handles) handle fun tx =>
    match tx.session? with
    | none => return .noSession
    | some session => directly report (Sessions.perform session op) (resultValue op) keepNothing

def same (first second : String) : Work ρ (Answer ρ) :=
  withNamed (·.handles) first fun tx =>
    withNamed (·.handles) second fun other => return .same (tx.sameSession other)

def inspect (handle : String) : Work ρ (Answer ρ) :=
  withNamed (·.handles) handle fun tx => do
    let space ← Action.get
    return .inspection tx.isUsable do
      let id ← tx.session?.bind (·.localId?)
      return (id, ← space.world.session? id)

/-- Show the unfinished session of a thread; a handle on it gets a name. -/
def currentSession (thread : ThreadId) (backend : String) (handle? : Option String) :
    Work ρ (Answer ρ) :=
  withNamed (·.locals) backend fun id => do
    match ((← Action.get).world.backend? id).bind (·.bound.find? thread) with
    | none => return .current none
    | some session =>
      match handle? with
      | some handle => Action.modify (keepHandle handle ⟨some (.localSession session)⟩)
      | none => pure ()
      return .current (some session)

def calls (double : String) : Work ρ (Answer ρ) := do
  let space ← Action.get
  match (space.sessions.get? double).bind (space.sessionDoubles[·]?) with
  | some session => return .sessionCalls session.calls
  | none =>
    match (space.backends.get? double).bind (space.backendDoubles[·]?) with
    | some backend => return .backendCalls backend.calls
    | none => return .missing double

def debugText : Kind → (id : String) → Work ρ (Answer ρ)
  | .handle, id => withNamed (·.handles) id fun tx => return .text tx.debugText
  | .facade, id => withNamed (·.facades) id fun txs => return .text txs.debugText
  | .localBackend, id => withNamed (·.locals) id fun backend => do
    match (← Action.get).world.backend? backend with
    | some backend => return .text backend.debugText
    | none => return .missing id

/-- Ask a handle for its overview, with fresh reports. -/
def viewHandle (tx : Transaction SessionRef) : Work ρ HandleView := do
  let (state, _) ← (tx.call .state : Call (Workspace ρ) _).run .success
  let (rollbackOnly, _) ← (tx.call .isRollbackOnly : Call (Workspace ρ) _).run .success
  let space ← Action.get
  let session? := (tx.session?.bind (·.localId?)).bind space.world.session?
  return ⟨tx.isUsable, state, rollbackOnly, session?.map (·.closed)⟩

/-- Ask all the handles, in the order of their names, and look at all the local backends. -/
def dump : Work ρ (Answer ρ) := do
  let handles ← (← Action.get).handles.entries.mapM fun (name, tx) => do
    return (name, ← viewHandle tx)
  let space ← Action.get
  let backends := space.locals.entries.filterMap fun (name, id) => do
    let backend ← space.world.backend? id
    return (name, backend.activeCount, backend.metrics)
  return .overview handles backends

/-- Carry out an instruction on a thread. -/
def Instruction.run (thread : ThreadId) : Instruction → Work ρ (Answer ρ)
  | putReport id report => do
    Action.modify fun space => { space with reports := space.reports.put id report }
    return .report report
  | getReport id => withNamed (·.reports) id fun report => return .reportText report
  | newLocal id => Script.newLocal id
  | newSession id double => Script.newSession id double
  | newBackend id double => Script.newBackend id double
  | newHandle id session? => Script.newHandle id session?
  | newFacade id backend? defaults => Script.newFacade id backend? defaults
  | copy kind id source => Script.copy kind id source
  | drop kind id => Script.drop kind id
  | start facade handle options? form => withNamed (·.facades) facade fun txs =>
    let call : Call (Workspace ρ) (Transaction SessionRef) :=
      match options? with
      | some options => txs.callStartWith thread options
      | none => txs.callStart thread
    inForm form call handleValue (keepHandle handle)
  | getTx facade handle form => withNamed (·.facades) facade fun txs =>
    inForm form (txs.callCurrent thread) handleValue (keepHandle handle)
  | metrics facade form => withNamed (·.facades) facade fun txs =>
    inForm form txs.callMetrics .metrics keepNothing
  | resetMetrics facade form => withNamed (·.facades) facade fun txs =>
    inForm form txs.callResetMetrics (fun () => .nothing) keepNothing
  | config facade => withNamed (·.facades) facade fun txs => return .config txs.config
  | session handle op form => withNamed (·.handles) handle fun tx =>
    inForm form (tx.call op) (resultValue op) keepNothing
  | directSession handle op report => Script.directSession handle op report
  | same first second => Script.same first second
  | inspect handle => Script.inspect handle
  | activeCount backend => withNamed (·.locals) backend fun id => do
    let backend? := (← Action.get).world.backend? id
    return .active ((backend?.map (·.activeCount)).getD 0)
  | currentSession backend handle? => Script.currentSession thread backend handle?
  | directStart backend handle options report => withNamed (·.locals) backend fun id =>
    directly report (Transaction.mk <$> Backends.start (BackendRef.localBackend id) thread options)
      handleValue (keepHandle handle)
  | directCurrent backend handle report => withNamed (·.locals) backend fun id =>
    directly report (Transaction.mk <$> Backends.current (BackendRef.localBackend id) thread)
      handleValue (keepHandle handle)
  | directMetrics backend report => withNamed (·.locals) backend fun id =>
    directly report (Backends.metrics (BackendRef.localBackend id)) .metrics keepNothing
  | directReset backend report => withNamed (·.locals) backend fun id =>
    directly report (Backends.resetMetrics (BackendRef.localBackend id)) (fun () => .nothing)
      keepNothing
  | calls double => Script.calls double
  | debugText kind id => Script.debugText kind id
  | dump => Script.dump
  | sleep millis => do
    Action.modify fun space =>
      { space with world := space.world.passTime (millis * 1000000 + 1) }
    return .slept

end TxClient.Script
