import TxClient.Label
import TxClient.Text.Blank
import TxClient.Text.Uppercase

namespace TxClient

/-- When a transaction acquires its locks. -/
inductive Concurrency where
  /-- Locks are taken when the commit is prepared; conflicting writers fail there. -/
  | optimistic
  /-- Locks are taken on first access; conflicting writers wait. -/
  | pessimistic
  deriving DecidableEq, Repr

namespace Concurrency

instance : Inhabited Concurrency := ⟨pessimistic⟩

/-- The mode in words, which is also its spelling in exchanged texts. -/
def display : Concurrency → String
  | optimistic => "OPTIMISTIC"
  | pessimistic => "PESSIMISTIC"

instance : Labelled Concurrency where
  values := [optimistic, pessimistic]
  label := display

/-- The number the mode travels as. -/
def ordinal : Concurrency → Int32
  | optimistic => 0
  | pessimistic => 1

def ofOrdinal? : Int32 → Option Concurrency
  | 0 => some optimistic
  | 1 => some pessimistic
  | _ => none

/-- The names under which a user may ask for a mode. -/
def names : List (String × Concurrency) :=
  [("OPTIMISTIC", optimistic), ("PESSIMISTIC", pessimistic)]

/-- The mode that a user's text names. Case and blanks around the name do not matter. -/
def ofText (text : String) : Except UnknownName Concurrency :=
  match names.lookup (String.ofList (Text.capitals (Text.trim text.toList))) with
  | some mode => .ok mode
  | none => .error ⟨"concurrency mode", text⟩

def debugText : Concurrency → String
  | optimistic => "Optimistic"
  | pessimistic => "Pessimistic"

end Concurrency

end TxClient
