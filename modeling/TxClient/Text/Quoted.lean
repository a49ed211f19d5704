import TxClient.Text.Combining
import TxClient.Text.Numeral
import TxClient.Text.Printable

namespace TxClient.Text

def codePointEscape (c : Char) : List Char :=
  ['\\', 'u', '\x7b'] ++ hexNumeral c.toNat ++ ['\x7d']

/-- The form of one character between double quotes. The quote, the backslash and the common
controls have escapes of their own; any other character that would not be seen, or would attach to
the one before it, is written by its code point. -/
def quoteChar (c : Char) : List Char :=
  match c with
  | '\x00' => ['\\', '0']
  | '\t' => ['\\', 't']
  | '\n' => ['\\', 'n']
  | '\r' => ['\\', 'r']
  | '"' => ['\\', '"']
  | '\\' => ['\\', '\\']
  | c => if isCombining c || !isPrintable c then codePointEscape c else [c]

/-- The text between double quotes, so that each of its characters can be told from the outside. -/
def quoted (text : String) : String :=
  String.ofList ('"' :: text.toList.flatMap quoteChar ++ ['"'])

end TxClient.Text
