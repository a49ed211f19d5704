namespace TxClient.Script

/-- Things with names, in the order of their names. -/
structure Slots (α : Type) where
  entries : List (String × α)

namespace Slots

variable {α : Type}

def empty : Slots α :=
  ⟨[]⟩

instance : Inhabited (Slots α) := ⟨empty⟩

def get? (slots : Slots α) (name : String) : Option α :=
  slots.entries.lookup name

def putInto (name : String) (value : α) : List (String × α) → List (String × α)
  | [] => [(name, value)]
  | (other, held) :: rest =>
    if name < other then (name, value) :: (other, held) :: rest
    else if name = other then (name, value) :: rest
    else (other, held) :: putInto name value rest

/-- Give the name to a thing, and take it from any other. -/
def put (slots : Slots α) (name : String) (value : α) : Slots α :=
  ⟨putInto name value slots.entries⟩

def erase (slots : Slots α) (name : String) : Slots α :=
  ⟨slots.entries.filter (·.1 != name)⟩

def any (slots : Slots α) (p : α → Bool) : Bool :=
  slots.entries.any fun (_, value) => p value

end Slots

end TxClient.Script
