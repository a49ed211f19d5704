import TxClient.Json.Scalar

namespace TxClient.Json

/-- A member of a record: its key, and how its value is read and put into the record. -/
structure Field (α : Type) where
  name : String
  read : Reader (α → α)

/-- The member with the given key, whose value is put into the record as `put` says. -/
def Field.of {α β : Type} (name : String) (read : Reader β) (put : β → α → α) : Field α :=
  ⟨name, put <$> read⟩

/-- How a record is read. -/
structure Shape (α : Type) where
  /-- What a reader is told to expect. -/
  name : String
  /-- The record before any member has been read. -/
  initial : α
  /-- The members, in the order in which an array gives them. -/
  fields : List (Field α)
  /-- The keys of the members that an object must have. -/
  required : List String
  /-- An array must give all the members. -/
  whole : Bool

variable {α : Type}

/-- Another element of an array comes next. -/
def moreElements (first : Bool) : Reader Bool := do
  match ← peekToken? with
  | some ']' => return false
  | some c =>
    if first then return true
    else if c = ',' then
      advance
      match ← peekToken? with
      | some ']' => failAhead .trailingComma
      | some _ => return true
      | none => failAhead .endInValue
    else failAhead .expectedCommaOrBracket
  | none => failAhead .endInArray

/-- Another member of an object comes next, beginning with its key. -/
def moreMembers (first : Bool) : Reader Bool := do
  match ← peekToken? with
  | some '}' => return false
  | some c =>
    if first then if c = '"' then return true else failAhead .keyMustBeText
    else if c = ',' then
      advance
      match ← peekToken? with
      | some '"' => return true
      | some '}' => failAhead .trailingComma
      | some _ => failAhead .keyMustBeText
      | none => failAhead .endInValue
    else failAhead .expectedCommaOrBrace
  | none => failAhead .endInObject

/-- The record given by an array whose opening bracket has been read. The result may be a fault of
the record as a whole. -/
def readElements (shape : Shape α) (record : α) (count : Nat) :
    List (Field α) → Reader (Except Fault α)
  | [] => return .ok record
  | field :: fields => do
    if ← moreElements (count == 0) then
      let update ← field.read
      readElements shape (update record) (count + 1) fields
    else if shape.whole then
      return .error (.invalidLength count
        (shape.name ++ " with " ++ toString shape.fields.length ++ " elements"))
    else return .ok record

/-- The record given by an object whose opening brace has been read. Members with other keys are
passed over. The result may be a fault of the record as a whole. The bound counts the members that
may still come. -/
def readMembers (shape : Shape α) :
    (bound : Nat) → (seen : List String) → (record : α) → (first : Bool) →
      Reader (Except Fault α)
  | 0, _, _, _ => failHere .endInObject
  | bound + 1, seen, record, first => do
    if ← moreMembers first then
      let key ← readText
      match shape.fields.find? (·.name == key) with
      | none =>
        readColon
        skip
        readMembers shape bound seen record false
      | some field =>
        if seen.contains key then return .error (.duplicateField key)
        readColon
        let update ← field.read
        readMembers shape bound (key :: seen) (update record) false
    else
      match shape.required.find? fun name => !seen.contains name with
      | some name => return .error (.missingField name)
      | none => return .ok record

def endArray : Reader Unit := do
  match ← peekToken? with
  | some ']' => advance
  | some ',' =>
    advance
    match ← peekToken? with
    | some ']' => failAhead .trailingComma
    | _ => failAhead .trailingCharacters
  | some _ => failAhead .trailingCharacters
  | none => failAhead .endInArray

def endObject : Reader Unit := do
  match ← peekToken? with
  | some '}' => advance
  | some ',' => failAhead .trailingComma
  | some _ => failAhead .trailingCharacters
  | none => failAhead .endInObject

/-- A fault of the record as a whole lies behind the closing bracket, if that comes next. -/
def failWhole (bracket : Bracket) (fault : Fault) : Reader α := do
  if (← peekToken?) = some bracket.close then advance
  failHere fault

/-- A record, given by an array of its members in order or by an object with its members in any
order. -/
def readRecord (shape : Shape α) : Reader α := do
  match ← peekToken? with
  | none => failAhead .endInValue
  | some '[' =>
    advance
    match ← readElements shape shape.initial 0 shape.fields with
    | .ok record => do endArray; return record
    | .error fault => failWhole .array fault
  | some '{' =>
    advance
    match ← readMembers shape ((← get).rest.length + 1) [] shape.initial true with
    | .ok record => do endObject; return record
    | .error fault => failWhole .object fault
  | some _ => invalidType shape.name

/-- What a whole text gives, if nothing but blanks follows it. -/
def parse (read : Reader α) (text : String) : Except Error α :=
  (do
    let value ← read
    match ← peekToken? with
    | none => return value
    | some _ => failAhead .trailingCharacters : Reader α).run' (.ofText text.toList)

end TxClient.Json
