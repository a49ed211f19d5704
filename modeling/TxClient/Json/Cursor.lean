import TxClient.Json.Fault

namespace TxClient.Json

/-- The part of a text that has not been read, and where it begins. -/
structure Cursor where
  rest : List Char
  position : Position

namespace Cursor

def ofText (text : List Char) : Cursor :=
  ⟨text, .start⟩

/-- The position behind the next byte; the end of the text if there is none. -/
def ahead (cursor : Cursor) : Position :=
  match cursor.rest with
  | [] => cursor.position
  | c :: _ => cursor.position.into c

def next (cursor : Cursor) : Cursor :=
  match cursor.rest with
  | [] => cursor
  | c :: rest => ⟨rest, cursor.position.after c⟩

/-- The cursor behind the longest run of characters that all have a property. -/
def skipWhile (p : Char → Bool) (cursor : Cursor) : Cursor :=
  ⟨cursor.rest.dropWhile p, (cursor.rest.takeWhile p).foldl .after cursor.position⟩

end Cursor

/-- A reader moves the cursor over what it reads. -/
abbrev Reader := StateT Cursor (Except Error)

/-- The next character, without reading it. -/
def peek? : Reader (Option Char) :=
  return (← get).rest.head?

def advance : Reader Unit :=
  modify Cursor.next

/-- Fail behind what has been read. -/
def failHere {α : Type} (fault : Fault) : Reader α := do
  throw ⟨fault, (← get).position⟩

/-- Fail behind the next byte, which is the one at fault. -/
def failAhead {α : Type} (fault : Fault) : Reader α := do
  throw ⟨fault, (← get).ahead⟩

/-- Read the longest run of characters that all have a property. -/
def readWhile (p : Char → Bool) : Reader (List Char) := do
  let cursor ← get
  set (cursor.skipWhile p)
  return cursor.rest.takeWhile p

/-- The blanks that may stand between two tokens. -/
def isSpace (c : Char) : Bool :=
  c == ' ' || c == '\n' || c == '\t' || c == '\r'

def skipSpaces : Reader Unit :=
  modify (·.skipWhile isSpace)

/-- The next character that is not a blank between tokens, without reading it. -/
def peekToken? : Reader (Option Char) := do
  skipSpaces
  peek?

def readWord : List Char → Reader Unit
  | [] => return
  | expected :: more => do
    match ← peek? with
    | none => failHere .endInValue
    | some c => if c = expected then do advance; readWord more else failAhead .expectedWord

def readColon : Reader Unit := do
  match ← peekToken? with
  | some ':' => advance
  | some _ => failAhead .expectedColon
  | none => failAhead .endInObject

end TxClient.Json
