namespace TxClient

/-- A thread of the calling program. -/
structure ThreadId where
  number : Nat
  deriving DecidableEq, Inhabited, Repr

/-- A transaction of the local backends, by the order in which they were started. -/
@[ext]
structure SessionId where
  serial : Nat
  deriving DecidableEq, Repr

def SessionId.display (id : SessionId) : String :=
  "<tx" ++ toString id.serial ++ ">"

/-- A local backend, by the order in which they were created. -/
@[ext]
structure BackendId where
  serial : Nat
  deriving DecidableEq, Repr

end TxClient
