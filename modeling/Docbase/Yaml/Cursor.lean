/-!
# Places in a YAML text

A cursor is a place in a text: what is left of the text from there on, and how far the place is
from the beginning of the text and of its line. Lines end at line feeds, carriage returns and the
separators for lines and paragraphs.
-/

namespace Docbase.Yaml

/-- Why a text cannot be read. -/
inductive Trouble where
  /-- It is not YAML, or more than one document. -/
  | malformed
  /-- A scalar does not write what its tag says. -/
  | badValue
  /-- The code of a character is out of all bounds. -/
  | tooLarge
  /-- A scalar that should be a number is empty. -/
  | noDigits
  /-- A scalar is no word for a truth value. -/
  | noWord
  /-- A scalar is no moment. -/
  | noMoment
  deriving DecidableEq, Repr

/-- The kind of a trouble, as callers see it. -/
def Trouble.kind : Trouble → String
  | malformed => "YAMLError"
  | badValue => "ValueError"
  | tooLarge => "OverflowError"
  | noDigits => "IndexError"
  | noWord => "KeyError"
  | noMoment => "AttributeError"

/-- What is read from a text. -/
abbrev Reading (α : Type) := Except Trouble α

/-- Fails for a text that is not YAML. -/
def refuse {α : Type} : Reading α :=
  .error .malformed

/-- A place in a text. -/
structure Cursor where
  /-- What is left of the text. -/
  rest : List Char
  /-- How many characters come before. -/
  index : Nat := 0
  /-- How many lines come before. -/
  line : Nat := 0
  /-- How many characters of the line come before. -/
  column : Nat := 0

/-- Whether a character ends a line. -/
def isBreak (c : Char) : Bool :=
  c == '\n' || c == '\r' || c == '\u0085' || c == '\u2028' || c == '\u2029'

/-- Whether a character is a blank within a line. -/
def isSpace (c : Char) : Bool :=
  c == ' ' || c == '\t'

/-- Whether a text is at the end of a line, or at its own end. -/
def atBreak : List Char → Bool
  | [] => true
  | c :: _ => isBreak c

/-- Whether a text begins with a blank, or is at the end of a line. -/
def atBlank : List Char → Bool
  | [] => true
  | c :: _ => isSpace c || isBreak c

/-- Whether a text begins with a blank other than a tab, or is at the end of a line. -/
def atGap : List Char → Bool
  | [] => true
  | c :: _ => c == ' ' || isBreak c

/-- Whether a text begins with a character with some property. -/
def startsWith (test : Char → Bool) : List Char → Bool
  | [] => false
  | c :: _ => test c

/-- Whether a line begins with one of the marks between documents. -/
def atSeparator (text : List Char) : Bool :=
  let mark := text.take 3
  (mark == ['-', '-', '-'] || mark == ['.', '.', '.']) && atBlank (text.drop 3)

namespace Cursor

/-- The place after the next character. -/
def next (c : Cursor) : Cursor :=
  match c.rest with
  | [] => c
  | char :: rest =>
    let endsLine := isBreak char && !(char == '\r' && rest.head? == some '\n')
    if endsLine then ⟨rest, c.index + 1, c.line + 1, 0⟩
    else if char == '\uFEFF' then ⟨rest, c.index + 1, c.line, c.column⟩
    else ⟨rest, c.index + 1, c.line, c.column + 1⟩

/-- The place after a number of characters. -/
def skip : Nat → Cursor → Cursor
  | 0, c => c
  | n + 1, c => skip n c.next

/-- The characters with some property at a place, and the place after them. -/
def take (test : Char → Bool) (c : Cursor) : List Char × Cursor :=
  let chars := c.rest.takeWhile test
  (chars, c.skip chars.length)

/-- The place after all characters with some property. -/
def skipWhile (test : Char → Bool) (c : Cursor) : Cursor :=
  (c.take test).2

/-- The place after the spaces. -/
def skipSpaces (c : Cursor) : Cursor :=
  c.skipWhile (· == ' ')

/-- The place after the spaces, as far as they come before a column. -/
def skipIndent (column : Nat) (c : Cursor) : Cursor :=
  c.skip (((c.rest.takeWhile (· == ' ')).length).min (column - c.column))

/-- The place after a comment. -/
def skipComment (c : Cursor) : Cursor :=
  if startsWith (· == '#') c.rest then c.skipWhile (!isBreak ·) else c

/-- A line break as it is kept, and the place after it; nothing when there is none. -/
def takeBreak (c : Cursor) : List Char × Cursor :=
  match c.rest with
  | '\r' :: '\n' :: _ => (['\n'], c.skip 2)
  | char :: _ =>
    if char == '\u2028' || char == '\u2029' then ([char], c.next)
    else if isBreak char then (['\n'], c.next)
    else ([], c)
  | [] => ([], c)

/-- The line after the rest of one that may hold nothing but a comment. -/
def endLine (c : Cursor) : Reading Cursor :=
  let c := c.skipSpaces.skipComment
  if atBreak c.rest then .ok c.takeBreak.2 else refuse

end Cursor

end Docbase.Yaml
