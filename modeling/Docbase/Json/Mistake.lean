/-!
# Mistakes in texts

Where and why a text is not in the notation that it should be in. The place is kept as what is
left of the text from there on; its line and column are counted when the mistake is described.
-/

namespace Docbase.Json

/-- Why a text is not JSON. -/
inductive Problem where
  /-- It begins with a byte order mark. -/
  | byteOrderMark
  /-- There is no value where one should be. -/
  | valueExpected
  /-- There is no key where one should be. -/
  | keyExpected
  /-- There is no colon after a key. -/
  | colonExpected
  /-- There is no comma after a value. -/
  | commaExpected
  /-- Something follows the value. -/
  | extraData
  /-- A text has no end. -/
  | unterminated
  /-- A text holds a control character. -/
  | controlCharacter
  /-- A backslash is followed by no known letter. -/
  | badEscape
  /-- A character code is not four hexadecimal digits. -/
  | badCode
  /-- An integer has more digits than can be read. -/
  | tooManyDigits
  deriving DecidableEq, Repr

/-- The wording of a problem. -/
def Problem.message : Problem → String
  | byteOrderMark => "Unexpected UTF-8 BOM (decode using utf-8-sig)"
  | valueExpected => "Expecting value"
  | keyExpected => "Expecting property name enclosed in double quotes"
  | colonExpected => "Expecting ':' delimiter"
  | commaExpected => "Expecting ',' delimiter"
  | extraData => "Extra data"
  | unterminated => "Unterminated string starting at"
  | controlCharacter => "Invalid control character at"
  | badEscape => "Invalid \\escape"
  | badCode => "Invalid \\uXXXX escape"
  | tooManyDigits => "Exceeds the limit for integers"

/-- A problem with the number of characters from its place to the end of the text. -/
structure Mistake where
  /-- The problem. -/
  problem : Problem
  /-- How many characters there are from the place on. -/
  left : Nat
  deriving DecidableEq, Repr

/-- The place after some characters, in words: its line and column from one, and its number from
zero. -/
def placeText (before : List Char) : String :=
  let line := before.count '\n' + 1
  let column := (before.reverse.takeWhile (· != '\n')).length + 1
  s!"line {line} column {column} (char {before.length})"

/-- The wording of a mistake in a text. -/
def Mistake.message (mistake : Mistake) (text : String) : String :=
  let before := text.toList.take (text.toList.length - mistake.left)
  mistake.problem.message ++ ": " ++ placeText before

end Docbase.Json
