import TxClient.Label
import TxClient.Text.Numeral

namespace TxClient.Json

/-- A text between quotes. What is written here consists of plain characters, none of which needs
an escape. -/
def writePlain (text : List Char) : List Char :=
  '"' :: text ++ ['"']

def writeLabel {α : Type} [Labelled α] (value : α) : List Char :=
  writePlain (Labelled.label value).toList

def writeNumber (n : Nat) : List Char :=
  Text.numeral n

def writeOptional {α : Type} (write : α → List Char) : Option α → List Char
  | none => ['n', 'u', 'l', 'l']
  | some value => write value

def writeMember (member : String × List Char) : List Char :=
  writePlain member.1.toList ++ ':' :: member.2

/-- An object with its members in the given order and no blanks. -/
def writeObject (members : List (String × List Char)) : List Char :=
  '{' :: [','].intercalate (members.map writeMember) ++ ['}']

end TxClient.Json
