import Docbase.Document
import Docbase.Json.Mistake
import Docbase.Number.Decimal
import Docbase.Text.Table

/-!
# Reading JSON

Numbers without a point or an exponent are exact integers, which can only have so many digits, all
others doubles, among them `NaN` and the two infinities. When a key comes twice, its last value
stands at its first place.
-/

namespace Docbase.Json

/-- Fails at the place from which on a text is left. -/
def fail {α : Type} (problem : Problem) (text : List Char) : Except Mistake α :=
  .error ⟨problem, text.length⟩

/-- Whether a character may stand between the parts of a text. -/
def isSpace (c : Char) : Bool :=
  c == ' ' || c == '\t' || c == '\n' || c == '\r'

/-- What is left of a text after the space at its front. -/
def skipSpace (text : List Char) : List Char :=
  text.dropWhile isSpace

/-- Whether a character is a decimal digit. -/
def isDigit (c : Char) : Bool :=
  '0' ≤ c && c ≤ '9'

/-- The number that four hexadecimal digits write. -/
def unit? (digits : List Char) : Option Nat :=
  if digits.length = 4 ∧ digits.all Text.isHexDigit then some (Text.readHex digits) else none

/-- Whether a unit is the first half of a character. -/
def isFirstHalf (unit : Nat) : Bool :=
  0xD800 ≤ unit && unit < 0xDC00

/-- Whether a unit is the second half of a character. -/
def isSecondHalf (unit : Nat) : Bool :=
  0xDC00 ≤ unit && unit < 0xE000

/-- The character of a unit. A half that stands alone is replaced. -/
def charOfUnit (unit : Nat) : Char :=
  if isFirstHalf unit || isSecondHalf unit then '\uFFFD' else Char.ofNat unit

/-- The character of two halves. -/
def charOfHalves (first second : Nat) : Char :=
  Char.ofNat (0x10000 + (first - 0xD800) * 0x400 + (second - 0xDC00))

/-- The character that a letter after a backslash stands for. -/
def escaped? (c : Char) : Option Char :=
  [('"', '"'), ('\\', '\\'), ('/', '/'), ('b', '\x08'), ('f', '\x0c'), ('n', '\n'), ('r', '\r'),
    ('t', '\t')].lookup c

/-- The unit that a code at the front of a text writes, if there is a code with something after
it. -/
def codeAt? : List Char → Except Mistake (Option Nat)
  | '\\' :: 'u' :: a :: b :: c :: d :: e :: rest =>
    match unit? [a, b, c, d] with
    | some unit => .ok (some unit)
    | none => fail .badCode ('u' :: a :: b :: c :: d :: e :: rest)
  | _ => .ok none

/-- The character that a unit at the front of a text begins, and how many characters the code of
its second half takes up. -/
def completed (unit : Nat) (text : List Char) : Except Mistake (Char × Nat) := do
  if isFirstHalf unit then
    match ← codeAt? text with
    | some second =>
      if isSecondHalf second then return (charOfHalves unit second, 6)
      else return (charOfUnit unit, 0)
    | none => return (charOfUnit unit, 0)
  else return (charOfUnit unit, 0)

/-- Reads a text up to its closing quote; `start` is the text from the opening quote on, and
`done` what has been read, reversed. A code is only taken for one if something follows it. -/
def readText (start : List Char) (text done : List Char) : Except Mistake (String × List Char) :=
  match text with
  | [] => fail .unterminated start
  | '"' :: rest => .ok (String.ofList done.reverse, rest)
  | ['\\'] => fail .unterminated start
  | '\\' :: 'u' :: rest =>
    match codeAt? ('\\' :: 'u' :: rest) with
    | .error mistake => .error mistake
    | .ok none => fail .badCode ('u' :: rest)
    | .ok (some unit) =>
      match completed unit (rest.drop 4) with
      | .error mistake => .error mistake
      | .ok (char, more) => readText start (rest.drop (4 + more)) (char :: done)
  | '\\' :: c :: rest =>
    match escaped? c with
    | some char => readText start rest (char :: done)
    | none => fail .badEscape ('\\' :: c :: rest)
  | c :: rest =>
    if c.toNat < 0x20 then fail .controlCharacter (c :: rest) else readText start rest (c :: done)
termination_by text.length
decreasing_by all_goals simp only [List.length_drop, List.length_cons]; omega

/-- The digits at the front of a text, and what follows them. -/
def digits (text : List Char) : List Char × List Char :=
  text.span isDigit

/-- A point with the digits after it at the front of a text, if there are any. -/
def fraction (text : List Char) : List Char × List Char :=
  match text with
  | '.' :: rest =>
    let (digits, after) := digits rest
    if digits.isEmpty then ([], text) else ('.' :: digits, after)
  | _ => ([], text)

/-- An exponent at the front of a text, if there is one. -/
def exponent (text : List Char) : List Char × List Char :=
  match text with
  | c :: rest =>
    if c == 'e' || c == 'E' then
      let (sign, rest) := match rest with
        | s :: rest' => if s == '+' || s == '-' then ([s], rest') else ([], rest)
        | [] => ([], rest)
      let (digits, after) := digits rest
      if digits.isEmpty then ([], text) else (c :: sign ++ digits, after)
    else ([], text)
  | [] => ([], text)

/-- The digits before the point of a number: a zero, or digits that do not begin with one. -/
def wholePart? (text : List Char) : Option (List Char × List Char) :=
  match text with
  | '0' :: rest => some (['0'], rest)
  | c :: _ => if isDigit c then some (digits text) else none
  | [] => none

/-- Reads a number. -/
def readNumber (text : List Char) : Except Mistake (Value × List Char) :=
  let (negative, body) := match text with
    | '-' :: rest => (true, rest)
    | _ => (false, text)
  match wholePart? body with
  | none => fail .valueExpected text
  | some (whole, rest) =>
    let (fraction, rest) := fraction rest
    let (exponent, rest) := exponent rest
    if fraction.isEmpty && exponent.isEmpty then
      let n : Int := Double.readDigits whole
      if whole.length ≤ Text.digitLimit then .ok (.int (if negative then -n else n), rest)
      else fail .tooManyDigits text
    else
      match Double.readDecimal? negative (whole ++ fraction ++ exponent) with
      | some x => .ok (.double x, rest)
      | none => fail .valueExpected text

/-- The words that are values. -/
def words : List (List Char × Value) :=
  [("null".toList, .null), ("true".toList, .bool true), ("false".toList, .bool false),
    ("NaN".toList, .double .nan), ("Infinity".toList, .double (.infinite false)),
    ("-Infinity".toList, .double (.infinite true))]

/-- Reads a value that is a word or a number. -/
def readPlain (text : List Char) : Except Mistake (Value × List Char) :=
  match words.find? fun word => word.1.isPrefixOf text with
  | some (word, value) => .ok (value, text.drop word.length)
  | none => readNumber text

mutual

/-- Reads a value, going no deeper than a bound allows. -/
def readValue : Nat → List Char → Except Mistake (Value × List Char)
  | 0, text => fail .valueExpected text
  | bound + 1, text =>
    match text with
    | '"' :: rest => do
      let (s, rest) ← readText text rest []
      return (.text s, rest)
    | '\x7b' :: rest =>
      match skipSpace rest with
      | '\x7d' :: rest => return (.object [], rest)
      | rest => do
        let (fields, rest) ← readFields bound rest
        return (.object (Keyed.ofList fields), rest)
    | '[' :: rest =>
      match skipSpace rest with
      | ']' :: rest => return (.list [], rest)
      | rest => do
        let (items, rest) ← readItems bound rest
        return (.list items, rest)
    | text => readPlain text

/-- Reads the items of a list and its closing bracket. -/
def readItems : Nat → List Char → Except Mistake (List Value × List Char)
  | 0, text => fail .valueExpected text
  | bound + 1, text => do
    let (item, rest) ← readValue bound text
    match skipSpace rest with
    | ']' :: rest => return ([item], rest)
    | ',' :: rest =>
      let (items, rest) ← readItems bound (skipSpace rest)
      return (item :: items, rest)
    | rest => fail .commaExpected rest

/-- Reads the fields of an object and its closing brace. -/
def readFields : Nat → List Char → Except Mistake (List (String × Value) × List Char)
  | 0, text => fail .keyExpected text
  | bound + 1, text =>
    match text with
    | '"' :: rest => do
      let (key, rest) ← readText text rest []
      match skipSpace rest with
      | ':' :: rest =>
        let (value, rest) ← readValue bound (skipSpace rest)
        match skipSpace rest with
        | '\x7d' :: rest => return ([(key, value)], rest)
        | ',' :: rest =>
          let (fields, rest) ← readFields bound (skipSpace rest)
          return ((key, value) :: fields, rest)
        | rest => fail .commaExpected rest
      | rest => fail .colonExpected rest
    | text => fail .keyExpected text

end

/-- Reads a text as one value with space around it. -/
def read (text : String) : Except Mistake Value := do
  let chars := text.toList
  if chars.head? = some '\uFEFF' then fail .byteOrderMark chars
  let (value, rest) ← readValue (2 * chars.length + 2) (skipSpace chars)
  match skipSpace rest with
  | [] => return value
  | rest => fail .extraData rest

end Docbase.Json
