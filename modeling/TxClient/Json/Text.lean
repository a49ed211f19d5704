import TxClient.Json.Cursor

namespace TxClient.Json

def byteCount (text : List Char) : Nat :=
  text.foldl (fun count c => count + c.utf8Size) 0

/-- The number written in the next four characters, which must be digits in base sixteen. The four
are counted in bytes. -/
def readHex : Reader Nat := do
  let cursor ← get
  if byteCount cursor.rest < 4 then
    throw ⟨.endInText, cursor.position.afterBytes 4 cursor.rest⟩
  match cursor.rest.take 4 |>.map Text.hexValue? with
  | [some a, some b, some c, some d] =>
    set cursor.next.next.next.next
    return 4096 * a + 256 * b + 16 * c + d
  | _ => throw ⟨.invalidEscape, cursor.position.afterBytes 4 cursor.rest⟩

/-- The character of a numbered escape. A character beyond the sixteen-bit range is written as two
escapes, each with half of its bits. -/
def readCodePoint : Reader Char := do
  let first ← readHex
  if 0xdc00 ≤ first ∧ first ≤ 0xdfff then failHere .loneSurrogate
  else if first < 0xd800 ∨ 0xdbff < first then return Char.ofNat first
  else
    match ← peek? with
    | none => failHere .endInText
    | some '\\' => advance
    | some _ => failAhead .unexpectedEndOfHexEscape
    match ← peek? with
    | none => failHere .endInText
    | some 'u' => advance
    | some _ => failAhead .unexpectedEndOfHexEscape
    let second ← readHex
    if second < 0xdc00 ∨ 0xdfff < second then failHere .loneSurrogate
    else return Char.ofNat (0x10000 + 1024 * (first - 0xd800) + (second - 0xdc00))

/-- The character that a letter after a backslash stands for. -/
def escaped? : Char → Option Char
  | '"' => some '"'
  | '\\' => some '\\'
  | '/' => some '/'
  | 'b' => some '\x08'
  | 'f' => some '\x0c'
  | 'n' => some '\n'
  | 'r' => some '\r'
  | 't' => some '\t'
  | _ => none

/-- The character of an escape whose backslash has been read. -/
def readEscape : Reader Char := do
  match ← peek? with
  | none => failHere .endInText
  | some 'u' => do advance; readCodePoint
  | some c =>
    match escaped? c with
    | some meant => do advance; return meant
    | none => failAhead .invalidEscape

/-- A character that stands for itself between quotes. -/
def isPlain (c : Char) : Bool :=
  c != '"' && c != '\\' && ' ' ≤ c

/-- The characters up to the closing quote. The bound counts the escapes that may still come. -/
def readTextFrom : (bound : Nat) → Reader (List Char)
  | 0 => failHere .endInText
  | bound + 1 => do
    let plain ← readWhile isPlain
    match ← peek? with
    | none => failHere .endInText
    | some '"' => do advance; return plain
    | some '\\' =>
      advance
      let c ← readEscape
      let more ← readTextFrom bound
      return plain ++ c :: more
    | some _ => failAhead .controlCharacter

/-- A text whose opening quote comes next. -/
def readText : Reader String := do
  advance
  let text ← readTextFrom ((← get).rest.length + 1)
  return String.ofList text

/-- Pass over an escape whose backslash has been read. Whether a numbered escape denotes a
character is not checked. -/
def skipEscape : Reader Unit := do
  match ← peek? with
  | none => failHere .endInText
  | some 'u' => do advance; let _ ← readHex
  | some c => if (escaped? c).isSome then advance else failAhead .invalidEscape

/-- Pass over the characters up to the closing quote. -/
def skipTextFrom : (bound : Nat) → Reader Unit
  | 0 => failHere .endInText
  | bound + 1 => do
    let _ ← readWhile isPlain
    match ← peek? with
    | none => failHere .endInText
    | some '"' => advance
    | some '\\' => do advance; skipEscape; skipTextFrom bound
    | some _ => failHere .controlCharacter

def skipText : Reader Unit := do
  advance
  skipTextFrom ((← get).rest.length + 1)

end TxClient.Json
