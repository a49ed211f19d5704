import TxClient.Text.Quoted
import TxClient.Text.Record
import TxClient.Time.Rfc3339.Reader

namespace TxClient.Json

/-- A value that stands where another kind of value should stand. -/
inductive Found where
  | null
  | boolean (value : Bool)
  | integer (value : Int)
  /-- A number that is kept as a floating point number, with its text. -/
  | decimal (shown : String)
  | text (value : String)
  | sequence
  | map
  deriving DecidableEq, Repr

def Found.display : Found → String
  | null => "null"
  | boolean value => "boolean `" ++ Text.truth value ++ "`"
  | integer value => "integer `" ++ toString value ++ "`"
  | decimal shown => "floating point `" ++ shown ++ "`"
  | text value => "string " ++ Text.quoted value
  | sequence => "sequence"
  | map => "map"

/-- Why a text cannot be read. The first group concerns the notation, the second the values. -/
inductive Fault where
  | endInArray
  | endInObject
  | endInText
  | endInValue
  | expectedColon
  | expectedCommaOrBracket
  | expectedCommaOrBrace
  /-- One of the words for the truth values and null is misspelt. -/
  | expectedWord
  | expectedValue
  | invalidEscape
  | invalidNumber
  | numberOutOfRange
  | controlCharacter
  | keyMustBeText
  /-- A surrogate stands where it does not complete a pair. -/
  | loneSurrogate
  | unexpectedEndOfHexEscape
  | trailingComma
  | trailingCharacters
  | unknownVariant (text : String) (expected : List String)
  | invalidType (found : Found) (expected : String)
  | invalidValue (found : Found) (expected : String)
  | duplicateField (name : String)
  | missingField (name : String)
  | invalidLength (length : Nat) (expected : String)
  | time (fault : Rfc3339.Fault)
  deriving DecidableEq, Repr

/-- A choice between names, each between backquotes. -/
def oneOf (names : List String) : String :=
  match names.map fun name => "`" ++ name ++ "`" with
  | [first, second] => first ++ " or " ++ second
  | quoted => "one of " ++ ", ".intercalate quoted

def Fault.message : Fault → String
  | endInArray => "EOF while parsing a list"
  | endInObject => "EOF while parsing an object"
  | endInText => "EOF while parsing a string"
  | endInValue => "EOF while parsing a value"
  | expectedColon => "expected `:`"
  | expectedCommaOrBracket => "expected `,` or `]`"
  | expectedCommaOrBrace => "expected `,` or `\x7d`"
  | expectedWord => "expected ident"
  | expectedValue => "expected value"
  | invalidEscape => "invalid escape"
  | invalidNumber => "invalid number"
  | numberOutOfRange => "number out of range"
  | controlCharacter => "control character (\\u0000-\\u001F) found while parsing a string"
  | keyMustBeText => "key must be a string"
  | loneSurrogate => "lone leading surrogate in hex escape"
  | unexpectedEndOfHexEscape => "unexpected end of hex escape"
  | trailingComma => "trailing comma"
  | trailingCharacters => "trailing characters"
  | unknownVariant text expected =>
    "unknown variant `" ++ text ++ "`, expected " ++ oneOf expected
  | invalidType found expected => "invalid type: " ++ found.display ++ ", expected " ++ expected
  | invalidValue found expected => "invalid value: " ++ found.display ++ ", expected " ++ expected
  | duplicateField name => "duplicate field `" ++ name ++ "`"
  | missingField name => "missing field `" ++ name ++ "`"
  | invalidLength length expected =>
    "invalid length " ++ toString length ++ ", expected " ++ expected
  | time fault => fault.message

/-- How far a text has been read: the line, counted from one, and the bytes of that line. -/
structure Position where
  line : Nat
  column : Nat
  deriving DecidableEq, Repr

namespace Position

def start : Position :=
  ⟨1, 0⟩

/-- The position behind one more character. -/
def after (position : Position) (c : Char) : Position :=
  if c = '\n' then ⟨position.line + 1, 0⟩ else ⟨position.line, position.column + c.utf8Size⟩

/-- The position behind the first byte of one more character. -/
def into (position : Position) (c : Char) : Position :=
  if c = '\n' then ⟨position.line + 1, 0⟩ else ⟨position.line, position.column + 1⟩

/-- The position behind a number of bytes of a text, or behind the text if it is shorter. -/
def afterBytes (position : Position) : (bytes : Nat) → List Char → Position
  | _, [] => position
  | bytes, c :: rest =>
    if bytes = 0 then position
    else if bytes < c.utf8Size then ⟨position.line, position.column + bytes⟩
    else (position.after c).afterBytes (bytes - c.utf8Size) rest

end Position

/-- A fault and where it was noticed. -/
structure Error where
  fault : Fault
  position : Position
  deriving DecidableEq, Repr

def Error.message (error : Error) : String :=
  error.fault.message ++ " at line " ++ toString error.position.line ++ " column "
    ++ toString error.position.column

end TxClient.Json
