import TxClient.Label
import TxClient.Text.Blank
import TxClient.Text.Uppercase

namespace TxClient

/-- Which concurrent changes a transaction may observe. -/
inductive Isolation where
  /-- Every read sees what was committed last, so two reads of a key may differ. -/
  | readCommitted
  /-- A value once read stays the same until the transaction ends. -/
  | repeatableRead
  /-- The transactions behave as if each ran alone. -/
  | serializable
  deriving DecidableEq, Repr

namespace Isolation

instance : Inhabited Isolation := ⟨repeatableRead⟩

def label : Isolation → String
  | readCommitted => "READ_COMMITTED"
  | repeatableRead => "REPEATABLE_READ"
  | serializable => "SERIALIZABLE"

instance : Labelled Isolation where
  values := [readCommitted, repeatableRead, serializable]
  label := label

def display : Isolation → String
  | readCommitted => "READ COMMITTED"
  | repeatableRead => "REPEATABLE READ"
  | serializable => "SERIALIZABLE"

/-- The number the level travels as. -/
def ordinal : Isolation → Int32
  | readCommitted => 0
  | repeatableRead => 1
  | serializable => 2

def ofOrdinal? : Int32 → Option Isolation
  | 0 => some readCommitted
  | 1 => some repeatableRead
  | 2 => some serializable
  | _ => none

/-- A key that is read twice in one transaction gives the same value both times. -/
def isRepeatable (level : Isolation) : Bool :=
  level != readCommitted

def description : Isolation → String
  | readCommitted => "Each read sees the latest committed data"
  | repeatableRead => "Values read once stay the same for the rest of the transaction"
  | serializable => "Transactions behave as if executed one after another"

/-- The names under which a user may ask for a level: two words, joined words, or one word. -/
def names : List (String × Isolation) :=
  [("READ COMMITTED", readCommitted), ("READ_COMMITTED", readCommitted),
    ("READCOMMITTED", readCommitted), ("REPEATABLE READ", repeatableRead),
    ("REPEATABLE_READ", repeatableRead), ("REPEATABLEREAD", repeatableRead),
    ("SERIALIZABLE", serializable)]

/-- The level that a user's text names. Case and blanks around the name do not matter. -/
def ofText (text : String) : Except UnknownName Isolation :=
  match names.lookup (String.ofList (Text.capitals (Text.trim text.toList))) with
  | some level => .ok level
  | none => .error ⟨"isolation level", text⟩

def debugText : Isolation → String
  | readCommitted => "ReadCommitted"
  | repeatableRead => "RepeatableRead"
  | serializable => "Serializable"

end Isolation

end TxClient
