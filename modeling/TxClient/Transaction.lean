import TxClient.Implementation

namespace TxClient

/-- A handle on a transaction: a reference to a session, or to none. Copies refer to the same
session. -/
structure Transaction (ι : Type) where
  session? : Option ι
  deriving DecidableEq, Inhabited, Repr

namespace Transaction

variable {ι σ : Type}

def unusable : Transaction ι :=
  ⟨none⟩

def isUsable (tx : Transaction ι) : Bool :=
  tx.session?.isSome

/-- Both handles refer to one session. A handle that refers to none does not even agree with
itself. -/
def sameSession [DecidableEq ι] (first second : Transaction ι) : Bool :=
  match first.session?, second.session? with
  | some a, some b => a == b
  | _, _ => false

/-- Ask the session, and fill the caller's report. -/
def call [Sessions ι σ] (tx : Transaction ι) (op : SessionOp) : Call σ op.Result :=
  Call.forward (.session op) tx.session? fun session => Sessions.perform session op

/-- Ask the session, and raise a failure. -/
def attempt [Sessions ι σ] (tx : Transaction ι) (op : SessionOp) : Attempt σ op.Result :=
  (tx.call op).raise

def debugText (tx : Transaction ι) : String :=
  Text.record "Transaction" [("usable", Text.truth tx.isUsable)]

end Transaction

end TxClient
