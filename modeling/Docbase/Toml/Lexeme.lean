import Docbase.Number.Decimal
import Docbase.Text.Table
import Docbase.Value.Moment

/-!
# Lexemes of TOML

The parts of a TOML text that hold no others: blanks and comments, keys, texts, numbers, days and
times. A reader gives what it has read from the front of the text and what is left, or nothing
when the text is malformed.
-/

namespace Docbase.Toml

/-- Whether a character is a blank within a line. -/
def isBlank (c : Char) : Bool :=
  c == ' ' || c == '\t'

/-- What is left after the blanks at the front. -/
def skipBlanks (text : List Char) : List Char :=
  text.dropWhile isBlank

/-- What is left after the blanks and line breaks at the front. -/
def skipLines (text : List Char) : List Char :=
  text.dropWhile fun c => isBlank c || c == '\n'

/-- Whether a character may not stand in texts and comments: a control character other than a
tab. -/
def isControl (c : Char) : Bool :=
  (c.toNat < 32 && c != '\t') || c.toNat = 127

/-- What is left after a comment at the front, if there is one. -/
def skipComment (text : List Char) : Option (List Char) :=
  match text with
  | '#' :: rest =>
    let (comment, rest) := rest.span (· != '\n')
    if comment.any isControl then none else some rest
  | _ => some text

/-- Whether a character may stand in a key without quotes. -/
def isKeyChar (c : Char) : Bool :=
  c.isAlphanum || c == '-' || c == '_'

/-- The characters that letters after a backslash stand for. -/
def escapes : List (Char × Char) :=
  [('b', '\x08'), ('t', '\t'), ('n', '\n'), ('f', '\x0c'), ('r', '\r'), ('"', '"'), ('\\', '\\')]

/-- Reads the code of a character in so many hexadecimal digits. -/
def readCode (width : Nat) (text : List Char) : Option (List Char × List Char) :=
  let digits := text.take width
  let code := Text.readHex digits
  if digits.length = width ∧ digits.all Text.isHexDigit ∧ code.isValidChar then
    some ([Char.ofNat code], text.drop width)
  else none

/-- Reads what follows a backslash. In a text of several lines, a line break is passed over
together with all the space around it. -/
def readEscape (severalLines : Bool) (text : List Char) : Option (List Char × List Char) :=
  match text with
  | [] => none
  | 'u' :: rest => readCode 4 rest
  | 'U' :: rest => readCode 8 rest
  | c :: rest =>
    if severalLines && c == '\n' then some ([], skipLines rest)
    else if severalLines && isBlank c then
      match skipBlanks rest with
      | [] => some ([], [])
      | '\n' :: rest => some ([], skipLines rest)
      | _ => none
    else (escapes.lookup c).map fun char => ([char], rest)

/-- Reads a text in double quotes up to its closing quotes, in at most so many steps; `done` is
what has been read, reversed. -/
def readBasic (severalLines : Bool) : Nat → List Char → List Char → Option (List Char × List Char)
  | 0, _, _ => none
  | bound + 1, done, text =>
    match text with
    | [] => none
    | '"' :: rest =>
      if severalLines then
        match rest with
        | '"' :: '"' :: rest => some (done.reverse, rest)
        | _ => readBasic severalLines bound ('"' :: done) rest
      else some (done.reverse, rest)
    | '\\' :: rest => do
      let (chars, rest) ← readEscape severalLines rest
      readBasic severalLines bound (chars.reverse ++ done) rest
    | c :: rest =>
      if isControl c && !(severalLines && c == '\n') then none
      else readBasic severalLines bound (c :: done) rest

/-- Reads a text in three single quotes up to its closing quotes. -/
def readLiteralLines : List Char → Option (List Char × List Char)
  | [] => none
  | '\'' :: '\'' :: '\'' :: rest => some ([], rest)
  | c :: rest =>
    if isControl c && c != '\n' then none
    else (readLiteralLines rest).map fun (chars, rest) => (c :: chars, rest)

/-- Reads a text in single quotes up to its closing quote. -/
def readLiteral (text : List Char) : Option (List Char × List Char) :=
  let (chars, rest) := text.span (· != '\'')
  match rest with
  | _ :: rest => if chars.any isControl then none else some (chars, rest)
  | [] => none

/-- Up to two more quotes after three closing ones belong to the text. -/
def withExtraQuotes (mark : Char) (chars rest : List Char) : List Char × List Char :=
  let extra := (rest.take 2).takeWhile (· == mark)
  (chars ++ extra, rest.drop extra.length)

/-- What is left after a line break at the very beginning of a text of several lines. -/
def skipFirstBreak (text : List Char) : List Char :=
  match text with
  | '\n' :: rest => rest
  | _ => text

/-- Reads a text in quotes of any kind. -/
def readQuoted? (text : List Char) : Option (Option (String × List Char)) :=
  let given := fun (read : List Char × List Char) => (String.ofList read.1, read.2)
  match text with
  | '"' :: '"' :: '"' :: rest =>
    some ((readBasic true (text.length + 1) [] (skipFirstBreak rest)).map fun (chars, rest) =>
      given (withExtraQuotes '"' chars rest))
  | '"' :: rest => some ((readBasic false (text.length + 1) [] rest).map given)
  | '\'' :: '\'' :: '\'' :: rest =>
    some ((readLiteralLines (skipFirstBreak rest)).map fun (chars, rest) =>
      given (withExtraQuotes '\'' chars rest))
  | '\'' :: rest => some ((readLiteral rest).map given)
  | _ => none

/-- Reads a part of a key. -/
def readKeyPart (text : List Char) : Option (String × List Char) :=
  match text with
  | '\'' :: rest => (readLiteral rest).map fun (chars, rest) => (String.ofList chars, rest)
  | '"' :: rest =>
    (readBasic false (text.length + 1) [] rest).map fun (chars, rest) => (String.ofList chars, rest)
  | _ =>
    let (chars, rest) := text.span isKeyChar
    if chars.isEmpty then none else some (String.ofList chars, rest)

/-- Reads a key, in at most so many parts between dots. -/
def readKey : Nat → List Char → Option (List String × List Char)
  | 0, _ => none
  | bound + 1, text => do
    let (part, rest) ← readKeyPart text
    match skipBlanks rest with
    | '.' :: rest =>
      let (parts, rest) ← readKey bound (skipBlanks rest)
      return (part :: parts, rest)
    | rest => return ([part], rest)

/-- Digits that may have single underscores between them, at the front of a text. -/
def digitRun (isDigit : Char → Bool) (text : List Char) : List Char × List Char :=
  match text with
  | c :: rest => if isDigit c then go [c] rest else ([], text)
  | [] => ([], [])
where
  /-- Continues after the digits that are done, reversed. -/
  go (done : List Char) : List Char → List Char × List Char
    | '_' :: c :: rest =>
      if isDigit c then go (c :: done) rest else (done.reverse, '_' :: c :: rest)
    | c :: rest => if isDigit c then go (c :: done) rest else (done.reverse, c :: rest)
    | [] => (done.reverse, [])

/-- The number that digits write to a base. -/
def ofDigits (base : Nat) (digits : List Char) : Nat :=
  digits.foldl (fun n c => base * n + Text.hexDigit c) 0

/-- Whether a character is a digit to a base. -/
def isDigitOf (base : Nat) (c : Char) : Bool :=
  Text.isHexDigit c && decide (Text.hexDigit c < base)

/-- The bases of whole numbers, under the letters that announce them. -/
def bases : List (Char × Nat) :=
  [('x', 16), ('b', 2), ('o', 8)]

/-- Reads a whole number to a base other than ten. -/
def readBased? (text : List Char) : Option (Value × List Char) :=
  match text with
  | '0' :: letter :: rest =>
    match bases.lookup letter with
    | some base =>
      let (digits, rest) := digitRun (isDigitOf base) rest
      if digits.isEmpty then none else some (.int (ofDigits base digits), rest)
    | none => none
  | _ => none

/-- Digits after a sign, at the front of a text. -/
def signedRun (text : List Char) : List Char × List Char :=
  let (sign, rest) := match text with
    | '+' :: rest => ([], rest)
    | '-' :: rest => (['-'], rest)
    | rest => ([], rest)
  let (digits, rest) := digitRun (isDigitOf 10) rest
  (sign ++ digits, if digits.isEmpty then text else rest)

/-- A point and digits at the front of a text, if they are there. -/
def fraction (text : List Char) : List Char × List Char :=
  match text with
  | '.' :: rest =>
    let (digits, after) := digitRun (isDigitOf 10) rest
    if digits.isEmpty then ([], text) else ('.' :: digits, after)
  | _ => ([], text)

/-- An exponent at the front of a text, if it is there. -/
def exponent (text : List Char) : List Char × List Char :=
  match text with
  | c :: rest =>
    let (digits, after) := signedRun rest
    if (c == 'e' || c == 'E') && digits.any Char.isDigit then ('e' :: digits, after)
    else ([], text)
  | [] => ([], text)

/-- Reads a number to base ten: a whole number, or a double when it has a fraction or an
exponent. -/
def readDecimal? (text : List Char) : Option (Value × List Char) :=
  let (negative, body) := Double.readSign text
  let (whole, rest) := match body with
    | '0' :: rest => (['0'], rest)
    | rest => digitRun (isDigitOf 10) rest
  if whole.isEmpty then none
  else
    let (fraction, rest) := fraction rest
    let (exponent, rest) := exponent rest
    if fraction.isEmpty && exponent.isEmpty then
      let n : Int := ofDigits 10 whole
      some (.int (if negative then -n else n), rest)
    else
      (Double.readDecimal? negative (whole ++ fraction ++ exponent)).map fun x => (.double x, rest)

/-- The words for doubles that are no decimals. -/
def specials : List (List Char × Double) :=
  [("inf".toList, .infinite false), ("nan".toList, .nan), ("-inf".toList, .infinite true),
    ("+inf".toList, .infinite false), ("-nan".toList, .nan), ("+nan".toList, .nan)]

/-- Reads exactly two digits that write a number up to a bound. -/
def readTwo (most : Nat) (text : List Char) : Option (Nat × List Char) :=
  match text with
  | a :: b :: rest =>
    let n := ofDigits 10 [a, b]
    if a.isDigit && b.isDigit && decide (n ≤ most) then some (n, rest) else none
  | _ => none

/-- Reads two digits after a given character. -/
def readAfter (mark : Char) (most : Nat) (text : List Char) : Option (Nat × List Char) :=
  match text with
  | c :: rest => if c == mark then readTwo most rest else none
  | [] => none

/-- The microseconds of a fraction of a second, and what follows it; digits beyond the sixth are
passed over. -/
def readMicros (text : List Char) : Nat × List Char :=
  match text with
  | '.' :: rest =>
    let (digits, after) := rest.span Char.isDigit
    if digits.isEmpty then (0, text)
    else
      let kept := digits.take 6
      (ofDigits 10 (kept ++ List.replicate (6 - kept.length) '0'), after)
  | _ => (0, text)

/-- Reads a time of day. -/
def readTime? (text : List Char) : Option (DayTime × List Char) := do
  let (hour, rest) ← readTwo 23 text
  let (minute, rest) ← readAfter ':' 59 rest
  let (second, rest) ← readAfter ':' 59 rest
  let (micros, rest) := readMicros rest
  return ({ hour, minute, second, micros }, rest)

/-- The offset at the front of a text in minutes, if there is one. -/
def readOffset (text : List Char) : Option Int × List Char :=
  match text with
  | c :: rest =>
    if c == 'Z' || c == 'z' then (some 0, rest)
    else if c == '+' || c == '-' then
      let read := do
        let (hours, rest) ← readTwo 23 rest
        let (minutes, rest) ← readAfter ':' 59 rest
        return (hours * 60 + minutes, rest)
      match read with
      | some (minutes, rest) => (some (if c == '-' then -(minutes : Int) else minutes), rest)
      | none => (none, text)
    else (none, text)
  | [] => (none, text)

/-- Reads the digits of a day: four, two and two. -/
def readDay? (text : List Char) : Option ((Nat × Nat × Nat) × List Char) := do
  let (high, rest) ← readTwo 99 text
  let (low, rest) ← readTwo 99 rest
  let (month, rest) ← readAfter '-' 12 rest
  let (day, rest) ← readAfter '-' 31 rest
  if month = 0 ∨ day = 0 then none
  return ((100 * high + low, month, day), rest)

/-- The time after a day, set apart by a letter or a blank, if there is one. -/
def readDayTime? (text : List Char) : Option (DayTime × List Char) :=
  match text with
  | c :: rest => if c == 'T' || c == 't' || c == ' ' then readTime? rest else none
  | [] => none

/-- Reads a day or a moment. A text that begins as one is malformed if there is no such day. -/
def readMoment? (text : List Char) : Option (Option (Value × List Char)) :=
  (readDay? text).map fun ((year, month, day), rest) =>
    match readDayTime? rest with
    | some (time, rest) =>
      let (offset, rest) := readOffset rest
      (Leaf.moment? year month day time offset).map fun leaf => (.leaf leaf, rest)
    | none => (Leaf.day? year month day).map fun leaf => (.leaf leaf, rest)

/-- Reads a day, a time or a number. -/
def readPlain (text : List Char) : Option (Value × List Char) :=
  match readMoment? text, readTime? text with
  | some moment, _ => moment
  | none, some (time, rest) => some (.leaf (.time time), rest)
  | none, none =>
    match (readBased? text).or (readDecimal? text) with
    | some read => some read
    | none =>
      (specials.find? fun special => special.1.isPrefixOf text).map fun (word, x) =>
        (.double x, text.drop word.length)

end Docbase.Toml
