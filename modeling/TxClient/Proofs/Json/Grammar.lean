import TxClient.Proofs.Text.Numeral

/-!
Values and the texts that spell them. A value may be spelled in many ways: blanks may
stand between any two tokens, and the characters of a text may be escaped. The members of
an object keep their order, and a key may come more than once.
-/

namespace TxClient.Json

section Numbers

/-- The exponent of a number as it is written. -/
structure Exponent where
  letter : Char
  sign : List Char
  digits : List Char
  letter_eq : letter = 'e' ∨ letter = 'E'
  sign_eq : sign = [] ∨ sign = ['+'] ∨ sign = ['-']
  digits_ne_nil : digits ≠ []
  areDigits : Text.AreDigits digits

def Exponent.text (exponent : Exponent) : List Char :=
  exponent.letter :: (exponent.sign ++ exponent.digits)

/-- A number as it is written. -/
structure Literal where
  negative : Bool
  whole : List Char
  /-- The digits behind the point. There is no point without digits behind it. -/
  fraction : List Char
  exponent? : Option Exponent
  whole_ne_nil : whole ≠ []
  areDigits_whole : Text.AreDigits whole
  /-- No zero stands in front of other digits. -/
  whole_of_zero : whole.head? = some '0' → whole = ['0']
  areDigits_fraction : Text.AreDigits fraction

namespace Literal

def fractionText (literal : Literal) : List Char :=
  if literal.fraction = [] then [] else '.' :: literal.fraction

def exponentText (literal : Literal) : List Char :=
  (literal.exponent?.map (·.text)).getD []

/-- The number without its sign. -/
def unsignedText (literal : Literal) : List Char :=
  literal.whole ++ (literal.fractionText ++ literal.exponentText)

def text (literal : Literal) : List Char :=
  if literal.negative then '-' :: literal.unsignedText else literal.unsignedText

/-- The number that is written by digits alone, without a sign, a point and an exponent. -/
def natural? (literal : Literal) : Option Nat :=
  if literal.negative = false ∧ literal.fraction = [] ∧ literal.exponent?.isNone then
    some (Text.numeralValue literal.whole)
  else none

end Literal

end Numbers

/-- A value. Numbers are kept as they are written. -/
inductive Value where
  | null
  | truth (value : Bool)
  | number (literal : Literal)
  | text (value : String)
  | array (elements : List Value)
  | object (members : List (String × Value))

namespace Value

/-- The number that a value is, if it is written by digits alone. -/
def natural? : Value → Option Nat
  | number literal => literal.natural?
  | _ => none

end Value

section Texts

/-- The letters that stand for a character after a backslash. -/
def escapes : List (Char × Char) :=
  [('"', '"'), ('\\', '\\'), ('/', '/'), ('b', '\x08'), ('f', '\x0c'), ('n', '\n'), ('r', '\r'),
    ('t', '\t')]

/-- Four digits in base sixteen write a number. -/
def WritesHex (a b c d : Char) (n : Nat) : Prop :=
  ∃ first second third fourth,
    Text.hexValue? a = some first ∧ Text.hexValue? b = some second ∧
      Text.hexValue? c = some third ∧ Text.hexValue? d = some fourth ∧
      n = 4096 * first + 256 * second + 16 * third + fourth

/-- What may stand after a backslash for a character: a letter, or its number. A character beyond
the sixteen-bit range is written by two surrogates, each of which has a backslash. One of them
alone stands for no character, and a text that has one is the text of no value. -/
inductive SpellsEscape : List Char → Char → Prop where
  | letter {letter c : Char} (hletter : (letter, c) ∈ escapes) : SpellsEscape [letter] c
  | codePoint {a b c d : Char} {n : Nat} (hhex : WritesHex a b c d n)
      (hplain : n < 0xd800 ∨ 0xdfff < n) : SpellsEscape ['u', a, b, c, d] (Char.ofNat n)
  | surrogates {a b c d e f g h : Char} {high low : Nat}
      (hhigh : WritesHex a b c d high) (hhigh_range : 0xd800 ≤ high ∧ high ≤ 0xdbff)
      (hlow : WritesHex e f g h low) (hlow_range : 0xdc00 ≤ low ∧ low ≤ 0xdfff) :
      SpellsEscape ['u', a, b, c, d, '\\', 'u', e, f, g, h]
        (Char.ofNat (0x10000 + 1024 * (high - 0xd800) + (low - 0xdc00)))

/-- What may stand between the quotes for some characters: each character itself, unless it is a
quote, a backslash or a control character, or an escape. -/
inductive SpellsCharacters : List Char → List Char → Prop where
  | nil : SpellsCharacters [] []
  | plain {c : Char} {inside meant : List Char} (hquote : c ≠ '"') (hbackslash : c ≠ '\\')
      (hcontrol : ' ' ≤ c) (hinside : SpellsCharacters inside meant) :
      SpellsCharacters (c :: inside) (c :: meant)
  | escape {escape : List Char} {c : Char} {inside meant : List Char}
      (hescape : SpellsEscape escape c) (hinside : SpellsCharacters inside meant) :
      SpellsCharacters ('\\' :: (escape ++ inside)) (c :: meant)

/-- What spells a text, its quotes included. -/
def SpellsText (spelled : List Char) (value : String) : Prop :=
  ∃ inside meant, SpellsCharacters inside meant ∧ spelled = '"' :: (inside ++ ['"']) ∧
    value = String.ofList meant

end Texts

/-- Blanks that may stand between two tokens. -/
def AreBlanks (text : List Char) : Prop :=
  ∀ c ∈ text, c = ' ' ∨ c = '\n' ∨ c = '\t' ∨ c = '\r'

/-- What spells the key of a member, with the colon behind it. -/
def SpellsKey (spelled : List Char) (key : String) : Prop :=
  ∃ before name after, AreBlanks before ∧ SpellsText name key ∧ AreBlanks after ∧
    spelled = before ++ (name ++ (after ++ [':']))

mutual

/-- A text spells a value, without blanks at its ends. -/
inductive Spells : List Char → Value → Prop where
  | null : Spells ['n', 'u', 'l', 'l'] .null
  | true : Spells ['t', 'r', 'u', 'e'] (.truth true)
  | false : Spells ['f', 'a', 'l', 's', 'e'] (.truth false)
  | number (literal : Literal) : Spells literal.text (.number literal)
  | text {spelled : List Char} {value : String} (htext : SpellsText spelled value) :
      Spells spelled (.text value)
  | emptyArray {blanks : List Char} (hblanks : AreBlanks blanks) :
      Spells ('[' :: (blanks ++ [']'])) (.array [])
  | array {inside : List Char} {elements : List Value} (hinside : SpellsElements inside elements) :
      Spells ('[' :: (inside ++ [']'])) (.array elements)
  | emptyObject {blanks : List Char} (hblanks : AreBlanks blanks) :
      Spells ('{' :: (blanks ++ ['}'])) (.object [])
  | object {inside : List Char} {members : List (String × Value)}
      (hinside : SpellsMembers inside members) :
      Spells ('{' :: (inside ++ ['}'])) (.object members)

/-- What stands between the brackets of an array that is not empty. -/
inductive SpellsElements : List Char → List Value → Prop where
  | last {before spelled after : List Char} {value : Value} (hbefore : AreBlanks before)
      (hvalue : Spells spelled value) (hafter : AreBlanks after) :
      SpellsElements (before ++ (spelled ++ after)) [value]
  | more {before spelled after others : List Char} {value : Value} {values : List Value}
      (hbefore : AreBlanks before) (hvalue : Spells spelled value) (hafter : AreBlanks after)
      (hothers : SpellsElements others values) :
      SpellsElements (before ++ (spelled ++ (after ++ ',' :: others))) (value :: values)

/-- What stands between the braces of an object that is not empty. -/
inductive SpellsMembers : List Char → List (String × Value) → Prop where
  | last {name before spelled after : List Char} {key : String} {value : Value}
      (hkey : SpellsKey name key) (hbefore : AreBlanks before) (hvalue : Spells spelled value)
      (hafter : AreBlanks after) :
      SpellsMembers (name ++ (before ++ (spelled ++ after))) [(key, value)]
  | more {name before spelled after others : List Char} {key : String} {value : Value}
      {members : List (String × Value)} (hkey : SpellsKey name key) (hbefore : AreBlanks before)
      (hvalue : Spells spelled value) (hafter : AreBlanks after)
      (hothers : SpellsMembers others members) :
      SpellsMembers (name ++ (before ++ (spelled ++ (after ++ ',' :: others))))
        ((key, value) :: members)

end

/-- A whole text gives a value, with blanks around it or without. -/
def Document (text : String) (value : Value) : Prop :=
  ∃ before spelled after, AreBlanks before ∧ Spells spelled value ∧ AreBlanks after ∧
    text.toList = before ++ (spelled ++ after)

end TxClient.Json
