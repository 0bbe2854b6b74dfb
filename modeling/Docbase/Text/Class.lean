import Docbase.Text.ClassTable

/-!
# Character classes

The classes by which texts are split, trimmed, quoted and matched. Below code 128 each class is
given outright; above, by the Unicode tables.
-/

namespace Docbase.Text

/-- Whether a character lies in the seven-bit range. -/
def isAscii (c : Char) : Bool :=
  c.toNat < 128

/-- Whether a character is one of the digits `0` to `9`. -/
def isAsciiDigit (c : Char) : Bool :=
  '0' ≤ c && c ≤ '9'

/-- Whether a character is an unaccented Latin letter. -/
def isAsciiLetter (c : Char) : Bool :=
  ('a' ≤ c && c ≤ 'z') || ('A' ≤ c && c ≤ 'Z')

/-- Whether a character is white space below code 128, the four separators `1c` to `1f` included. -/
def isAsciiBlank (c : Char) : Bool :=
  c == ' ' || (9 ≤ c.toNat && c.toNat ≤ 13) || (28 ≤ c.toNat && c.toNat ≤ 31)

/-- The greatest number of digits of an integer that can be read or written. -/
def digitLimit : Nat := 4300

/-- Letters, digits and other numerals. -/
def isAlphanumeric (c : Char) : Bool :=
  if isAscii c then isAsciiDigit c || isAsciiLetter c
  else ClassTable.alphanumeric.contains c.toNat

/-- Letters. -/
def isAlphabetic (c : Char) : Bool :=
  if isAscii c then isAsciiLetter c else ClassTable.alphabetic.contains c.toNat

/-- Decimal digits of any script. -/
def isDecimal (c : Char) : Bool :=
  if isAscii c then isAsciiDigit c else ClassTable.decimal.contains c.toNat

/-- White space. -/
def isBlank (c : Char) : Bool :=
  if isAscii c then isAsciiBlank c else ClassTable.blank.contains c.toNat

/-- Characters that stand for themselves inside quotes. -/
def isPrintable (c : Char) : Bool :=
  if isAscii c then ' ' ≤ c && c.toNat < 127 else ClassTable.printable.contains c.toNat

/-- Capital letters. -/
def isUppercase (c : Char) : Bool :=
  if isAscii c then 'A' ≤ c && c ≤ 'Z' else ClassTable.uppercase.contains c.toNat

/-- Characters that may open an identifier. -/
def isNameStart (c : Char) : Bool :=
  if isAscii c then isAsciiLetter c || c == '_' else ClassTable.nameStart.contains c.toNat

/-- Characters that may continue an identifier. -/
def isNameRest (c : Char) : Bool :=
  if isAscii c then isAsciiLetter c || isAsciiDigit c || c == '_'
  else ClassTable.nameRest.contains c.toNat

/-- Whether a text is an identifier: one opening character, then continuing ones. -/
def isIdentifier (text : List Char) : Bool :=
  match text with
  | [] => false
  | c :: rest => isNameStart c && rest.all isNameRest

/-- A text without the white space at its two ends. -/
def trim (text : List Char) : List Char :=
  ((text.dropWhile isBlank).reverse.dropWhile isBlank).reverse

/-- The text `s` without the white space at its two ends. -/
def trimmed (s : String) : String :=
  String.ofList (trim s.toList)

end Docbase.Text
