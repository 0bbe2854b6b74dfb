import Docbase.Number.Decimal
import Docbase.Text.Table
import Docbase.Yaml.Cursor

/-!
# Scalars of YAML

How scalars are written: plain, in quotes of two kinds, or as a block of lines. Line breaks within
a plain or quoted scalar are folded: a single one becomes a space, and of several the first is left
out.
-/

namespace Docbase.Yaml

/-- A line break and those of the empty lines after it, folded. -/
def folded (first : List Char) (more : List Char) : List Char :=
  if first != ['\n'] then first ++ more
  else if more.isEmpty then [' ']
  else more

/-! ## Quoted scalars -/

/-- The characters that letters after a backslash stand for. -/
def escapes : List (Char × Char) :=
  [('0', '\x00'), ('a', '\x07'), ('b', '\x08'), ('t', '\t'), ('\t', '\t'), ('n', '\n'),
    ('v', '\x0b'), ('f', '\x0c'), ('r', '\r'), ('e', '\x1b'), (' ', ' '), ('"', '"'),
    ('\\', '\\'), ('/', '/'), ('N', '\u0085'), ('_', '\u00a0'), ('L', '\u2028'), ('P', '\u2029')]

/-- How many hexadecimal digits follow a letter after a backslash. -/
def codeWidths : List (Char × Nat) :=
  [('x', 2), ('u', 4), ('U', 8)]

/-- The character of a code; one that stands for half a character is replaced. -/
def charOfCode (code : Nat) : Reading Char :=
  if code.isValidChar then .ok (Char.ofNat code)
  else if code < 0x110000 then .ok '\uFFFD'
  else if code < 0x80000000 then .error .badValue
  else .error .tooLarge

/-- The breaks of the empty lines from the beginning of a line on. A mark between documents may not
stand within a scalar. -/
def takeEmptyLines : Nat → Cursor → Reading (List Char × Cursor)
  | 0, _ => refuse
  | bound + 1, c =>
    if atSeparator c.rest then refuse
    else
      let c := c.skipWhile isSpace
      if startsWith isBreak c.rest then do
        let (first, c) := c.takeBreak
        let (more, c) ← takeEmptyLines bound c
        return (first ++ more, c)
      else .ok ([], c)

/-- Reads what follows a backslash. -/
def readEscape (c : Cursor) : Reading (List Char × Cursor) :=
  match c.rest with
  | [] => refuse
  | letter :: rest =>
    match escapes.lookup letter, codeWidths.lookup letter with
    | some char, _ => .ok ([char], c.next)
    | none, some width =>
      let digits := rest.take width
      if digits.length = width ∧ digits.all Text.isHexDigit then do
        return ([← charOfCode (Text.readHex digits)], c.skip (width + 1))
      else refuse
    | none, none =>
      if isBreak letter then
        let c := c.takeBreak.2
        takeEmptyLines (c.rest.length + 1) c
      else refuse

/-- Reads blanks and line breaks within a quoted scalar. -/
def readGap (c : Cursor) : Reading (List Char × Cursor) :=
  let (blanks, c) := c.take isSpace
  if c.rest.isEmpty then refuse
  else if startsWith isBreak c.rest then do
    let (first, c) := c.takeBreak
    let (more, c) ← takeEmptyLines (c.rest.length + 1) c
    return (folded first more, c)
  else .ok (blanks, c)

/-- Reads a scalar up to its closing quote, in at most so many steps; `done` is what has been
read. -/
def readQuoted (mark : Char) : Nat → List Char → Cursor → Reading (List Char × Cursor)
  | 0, _, _ => refuse
  | bound + 1, done, c =>
    match c.rest with
    | [] => refuse
    | char :: rest =>
      if char == mark then
        if mark == '\'' && startsWith (· == '\'') rest then
          readQuoted mark bound (done ++ ['\'']) (c.skip 2)
        else .ok (done, c.next)
      else if char == '\\' && mark == '"' then do
        let (chars, c) ← readEscape c.next
        readQuoted mark bound (done ++ chars) c
      else if isSpace char || isBreak char then do
        let (chars, c) ← readGap c
        readQuoted mark bound (done ++ chars) c
      else readQuoted mark bound (done ++ [char]) c.next

/-! ## Plain scalars -/

/-- Whether a plain scalar cannot go on at a place: at blanks, at a colon before a blank, and
within brackets at the marks that have a meaning there. -/
def endsPlain (inFlow : Bool) (text : List Char) : Bool :=
  match text with
  | [] => true
  | c :: rest =>
    let isMark := fun marks : List Char => inFlow && startsWith marks.contains rest
    isSpace c || isBreak c || (c == ':' && (atBlank rest || isMark [',', '[', ']', '\x7b', '\x7d']))
      || (inFlow && [',', '?', '[', ']', '\x7b', '\x7d'].contains c)

/-- The length of the part of a plain scalar that a text begins with. -/
def plainLength (inFlow : Bool) : List Char → Nat
  | [] => 0
  | c :: rest => if endsPlain inFlow (c :: rest) then 0 else plainLength inFlow rest + 1

/-- The breaks of the empty lines within a plain scalar; nothing when a mark between documents
ends it. -/
def takePlainLines : Nat → Cursor → Option (List Char) × Cursor
  | 0, c => (some [], c)
  | bound + 1, c =>
    if atSeparator c.rest then (none, c)
    else
      let c := c.skipSpaces
      if startsWith isBreak c.rest then
        let (first, c) := c.takeBreak
        let (more, c) := takePlainLines bound c
        (more.map (first ++ ·), c)
      else (some [], c)

/-- What stands between two parts of a plain scalar: the characters, whether they hold a line
break, and the place after them. -/
def takePlainGap (c : Cursor) : List Char × Bool × Cursor :=
  let (spaces, c) := c.take (· == ' ')
  if startsWith isBreak c.rest then
    let (first, c) := c.takeBreak
    let (more, c) := takePlainLines (c.rest.length + 1) c
    ((more.map (folded first)).getD [], true, c)
  else (spaces, false, c)

/-- Reads a plain scalar whose lines are indented to a column: the scalar, whether it ends with a
line break, and the place after it. `gap` is what stands before the next part. -/
def readPlain (inFlow : Bool) (indent : Int) : Nat → List Char → Bool → Cursor →
    List Char × Bool × Cursor
  | 0, _, broken, c => ([], broken, c)
  | bound + 1, gap, broken, c =>
    let size := plainLength inFlow c.rest
    if startsWith (· == '#') c.rest || size == 0 then ([], broken, c)
    else
      let part := gap ++ c.rest.take size
      let (gap, broken, c) := takePlainGap (c.skip size)
      if gap.isEmpty || startsWith (· == '#') c.rest
        || (!inFlow && decide ((c.column : Int) < indent))
      then (part, broken, c)
      else
        let (more, broken, c) := readPlain inFlow indent bound gap broken c
        (part ++ more, broken, c)

/-! ## Blocks of lines -/

/-- What is done with the line breaks at the end of a block. -/
inductive Chomping where
  /-- They are left out. -/
  | strip
  /-- The first one is kept. -/
  | clip
  /-- All are kept. -/
  | keep
  deriving DecidableEq

/-- Reads the sign for what is done with the breaks at the end, if there is one. -/
def readChomping (c : Cursor) : Option Chomping × Cursor :=
  match c.rest with
  | '+' :: _ => (some .keep, c.next)
  | '-' :: _ => (some .strip, c.next)
  | _ => (none, c)

/-- Reads the digit for the indentation of a block, if there is one. -/
def readIncrement (c : Cursor) : Reading (Option Nat × Cursor) :=
  match c.rest with
  | digit :: _ =>
    if digit == '0' then refuse
    else if digit.isDigit then .ok (some (digit.toNat - 48), c.next)
    else .ok (none, c)
  | [] => .ok (none, c)

/-- Reads the marks at the head of a block, in either order, and the rest of their line. -/
def readBlockHead (c : Cursor) : Reading (Chomping × Option Nat × Cursor) := do
  let (early, c) := readChomping c
  let (increment, c) ← readIncrement c
  let (late, c) := if early.isNone && increment.isSome then readChomping c else (none, c)
  if !atGap c.rest then refuse
  return ((early.or late).getD .clip, increment, ← c.endLine)

/-- The breaks of the lines before the first one of a block that holds more than spaces, and the
furthest column that their spaces reach. -/
def takeLeadingLines : Nat → Nat → Cursor → List Char × Nat × Cursor
  | 0, furthest, c => ([], furthest, c)
  | bound + 1, furthest, c =>
    let c := c.skipSpaces
    let furthest := furthest.max c.column
    if startsWith isBreak c.rest then
      let (first, c) := c.takeBreak
      let (more, furthest, c) := takeLeadingLines bound furthest c
      (first ++ more, furthest, c)
    else ([], furthest, c)

/-- The breaks of the lines of a block that hold no more than its indentation. -/
def takeShortLines (indent : Nat) : Nat → Cursor → List Char × Cursor
  | 0, c => ([], c)
  | bound + 1, c =>
    let c := c.skipIndent indent
    if startsWith isBreak c.rest then
      let (first, c) := c.takeBreak
      let (more, c) := takeShortLines indent bound c
      (first ++ more, c)
    else ([], c)

/-- What stands between two lines of a block: in a folded one, a space in place of a single break
between lines that do not begin with a blank. -/
def betweenLines (folds : Bool) (line next : List Char) (first more : List Char) : List Char :=
  if folds && first == ['\n'] && !startsWith isSpace line && !startsWith isSpace next then
    if more.isEmpty then [' '] else []
  else first

/-- Reads the lines of a block from its indentation on; `before` is what stands before the first
of them. -/
def readBlockLines (folds : Bool) (chomping : Chomping) (indent : Nat) : Nat → List Char → Cursor →
    List Char × Cursor
  | 0, _, c => ([], c)
  | bound + 1, before, c =>
    let start := c.rest
    let (line, c) := c.take (!isBreak ·)
    let (first, c) := c.takeBreak
    let (more, c) := takeShortLines indent (c.rest.length + 1) c
    if c.column = indent ∧ !c.rest.isEmpty then
      let between := betweenLines folds start c.rest first more
      let (text, c) := readBlockLines folds chomping indent bound more c
      (before ++ line ++ between ++ text, c)
    else
      let tail := match chomping with
        | .strip => []
        | .clip => first
        | .keep => first ++ more
      (before ++ line ++ tail, c)

/-- Reads a block, after the mark that begins it, in a surrounding indentation. -/
def readBlock (folds : Bool) (outer : Int) (c : Cursor) : Reading (List Char × Cursor) := do
  let (chomping, increment, c) ← readBlockHead c
  let least := (outer + 1).toNat.max 1
  let bound := c.rest.length + 1
  let (before, indent, c) := match increment with
    | some n =>
      let indent := least + n - 1
      let (breaks, c) := takeShortLines indent bound c
      (breaks, indent, c)
    | none =>
      let (breaks, furthest, c) := takeLeadingLines bound 0 c
      (breaks, least.max furthest, c)
  if c.column = indent ∧ !c.rest.isEmpty then
    return readBlockLines folds chomping indent bound before c
  else return (if chomping = .keep then before else [], c)

end Docbase.Yaml
