import Docbase.Yaml.Scalar

/-!
# Tokens of YAML

The tokens that a text is made of. Where indentation begins and ends a collection, a token says so,
and so does a token before every key. A key that has no mark of its own is only known by the colon
after it, which has to come on the same line.
-/

namespace Docbase.Yaml

/-- A token. -/
inductive Token where
  /-- A directive: its name, and for a tag directive the handle and what it stands for. -/
  | directive (name : String) (arguments : List String)
  /-- The beginning of a document. -/
  | documentStart
  /-- The end of a document. -/
  | documentEnd
  /-- The beginning of an indented list. -/
  | listStart
  /-- The beginning of an indented mapping. -/
  | mappingStart
  /-- The end of an indented collection. -/
  | blockEnd
  /-- An opening square bracket. -/
  | openBracket
  /-- A closing square bracket. -/
  | closeBracket
  /-- An opening brace. -/
  | openBrace
  /-- A closing brace. -/
  | closeBrace
  /-- A dash before an item. -/
  | entry
  /-- A comma. -/
  | comma
  /-- The beginning of a key. -/
  | key
  /-- A colon before a value. -/
  | value
  /-- A reference to an anchor. -/
  | alias (name : String)
  /-- An anchor. -/
  | anchor (name : String)
  /-- A tag: its handle, if it has one, and what follows it. -/
  | tag (handle : Option String) (suffix : String)
  /-- A scalar, and whether it is a plain one. -/
  | scalar (text : String) (isPlain : Bool)
  deriving DecidableEq

/-- A place where a key without a mark may have begun. -/
structure Candidate where
  /-- How many tokens come before it. -/
  number : Nat
  /-- Whether there has to be a key. -/
  isRequired : Bool
  /-- The place. -/
  place : Cursor

/-- How far a text has been taken apart. -/
structure Scanner where
  /-- The place in the text. -/
  cursor : Cursor
  /-- The indentation of the innermost indented collection. -/
  indent : Int := -1
  /-- The indentations around it, from the inside outwards. -/
  outer : List Int := []
  /-- Where keys may have begun: within the innermost brackets, and within those around them. -/
  candidates : List (Option Candidate) := [none]
  /-- Whether a key, or an indented collection, may begin here. -/
  keyAllowed : Bool := true
  /-- The tokens so far, the last one first. -/
  tokens : List Token := []

namespace Scanner

/-- Whether the place is within brackets. -/
def inFlow (s : Scanner) : Bool :=
  1 < s.candidates.length

/-- Adds a token. -/
def push (s : Scanner) (token : Token) : Scanner :=
  { s with tokens := token :: s.tokens }

/-- Adds a token and moves on by some characters. -/
def pushSkip (s : Scanner) (token : Token) (size : Nat) : Scanner :=
  { s.push token with cursor := s.cursor.skip size }

/-- Puts a token after the first tokens of a given number. -/
def insert (s : Scanner) (number : Nat) (token : Token) : Scanner :=
  let later := s.tokens.take (s.tokens.length - number)
  { s with tokens := later ++ token :: s.tokens.drop later.length }

/-- Gives up a place where a key may have begun; there must not have to be one. -/
def dropped : Option Candidate → Reading (Option Candidate)
  | some candidate => if candidate.isRequired then refuse else .ok none
  | none => .ok none

/-- Gives up the place where a key may have begun within the innermost brackets. -/
def dropCandidate (s : Scanner) : Reading Scanner :=
  match s.candidates with
  | candidate :: others => do return { s with candidates := (← dropped candidate) :: others }
  | [] => .ok s

/-- How long a key without a mark may be. -/
def keyLimit : Nat := 1024

/-- Gives up the places on earlier lines, or too far back, where keys may have begun. -/
def dropStale (s : Scanner) : Reading Scanner := do
  let isStale := fun candidate : Candidate =>
    candidate.place.line != s.cursor.line
      || decide (keyLimit < s.cursor.index - candidate.place.index)
  let candidates ← s.candidates.mapM fun candidate =>
    if candidate.any isStale then dropped candidate else .ok candidate
  return { s with candidates }

/-- Notes that a key may begin at the place. -/
def saveCandidate (s : Scanner) : Reading Scanner := do
  if s.keyAllowed then
    let s ← s.dropCandidate
    let isRequired := !s.inFlow && decide (s.indent = s.cursor.column)
    let candidate : Candidate := ⟨s.tokens.length, isRequired, s.cursor⟩
    return { s with candidates := some candidate :: s.candidates.drop 1 }
  else return s

/-- Ends the indented collections that are indented further than a column. -/
def unwind (s : Scanner) (column : Int) : Scanner :=
  if s.inFlow then s else go s.indent s.outer s.tokens
where
  /-- Ends collections from the inside outwards. -/
  go (indent : Int) (outer : List Int) (tokens : List Token) : Scanner :=
    if indent ≤ column then { s with indent, outer, tokens }
    else match outer with
      | next :: rest => go next rest (.blockEnd :: tokens)
      | [] => { s with indent, outer, tokens }
  termination_by structural outer

/-- Begins an indented collection at a column, unless one has begun there: its token stands after
the first tokens of a given number. -/
def indentTo (s : Scanner) (column number : Nat) (token : Token) : Scanner :=
  if s.indent < column then
    let s := s.insert number token
    { s with indent := column, outer := s.indent :: s.outer }
  else s

/-- Ends all indented collections and begins anew, with no key allowed on the same line. -/
def reset (s : Scanner) : Reading Scanner := do
  return { ← (s.unwind (-1)).dropCandidate with keyAllowed := false }

/-- Goes on to the next token, past spaces, comments and line breaks, of which there are at most so
many. -/
def skipSpace : Nat → Scanner → Scanner
  | 0, s => s
  | bound + 1, s =>
    let cursor := s.cursor.skipSpaces.skipComment
    if startsWith isBreak cursor.rest then
      skipSpace bound
        { s with cursor := cursor.takeBreak.2, keyAllowed := s.keyAllowed || !s.inFlow }
    else { s with cursor }

/-- Takes an opening bracket or brace. -/
def takeOpening (s : Scanner) (token : Token) : Reading Scanner := do
  let s ← s.saveCandidate
  return { s.pushSkip token 1 with candidates := none :: s.candidates, keyAllowed := true }

/-- Takes a closing bracket or brace. -/
def takeClosing (s : Scanner) (token : Token) : Reading Scanner := do
  if !s.inFlow then refuse
  let s ← s.dropCandidate
  return { s.pushSkip token 1 with candidates := s.candidates.drop 1, keyAllowed := false }

/-- Takes a comma. -/
def takeComma (s : Scanner) : Reading Scanner := do
  let s ← s.dropCandidate
  return { s.pushSkip .comma 1 with keyAllowed := true }

/-- Takes a mark that may begin an indented collection. -/
def takeMark (s : Scanner) (start token : Token) (allowsKey : Bool) : Reading Scanner := do
  if !s.inFlow && !s.keyAllowed then refuse
  let s := if s.inFlow then s else s.indentTo s.cursor.column s.tokens.length start
  let s ← s.dropCandidate
  return { s.pushSkip token 1 with keyAllowed := allowsKey }

/-- Takes a colon, which makes a key of what may have been one. -/
def takeValue (s : Scanner) : Reading Scanner :=
  match s.candidates with
  | some candidate :: others =>
    let s := { s with candidates := none :: others }.insert candidate.number .key
    let s := if s.inFlow then s
      else s.indentTo candidate.place.column candidate.number .mappingStart
    .ok { s.pushSkip .value 1 with keyAllowed := false }
  | _ => s.takeMark .mappingStart .value !s.inFlow

/-- Whether a character may stand in the name of an anchor or a directive. -/
def isNameChar (c : Char) : Bool :=
  c.isAlphanum || c == '-' || c == '_'

/-- Reads a name, which has to be followed by something that passes a test. -/
def takeName (mayFollow : List Char → Bool) (c : Cursor) : Reading (String × Cursor) :=
  let (name, c) := c.take isNameChar
  if name.isEmpty || !mayFollow c.rest then refuse else .ok (String.ofList name, c)

/-- Whether an anchor may end before a text. -/
def afterAnchor (text : List Char) : Bool :=
  atBlank text || startsWith (['?', ':', ',', ']', '\x7d', '%', '@', '\x60'].contains ·) text

/-- Takes an anchor or a reference to one. -/
def takeAnchor (s : Scanner) (token : String → Token) : Reading Scanner := do
  let s ← s.saveCandidate
  let (name, cursor) ← takeName afterAnchor s.cursor.next
  return { s.push (token name) with cursor, keyAllowed := false }

/-- Whether a character may stand in a tag. -/
def isTagChar (c : Char) : Bool :=
  c.isAlphanum || "-;/?:@&=+$,_.!~*'()[]%".toList.contains c

/-- The bytes that codes of two hexadecimal digits after percent signs write, and what follows
them. -/
def percentBytes : List Char → Reading (List UInt8 × List Char)
  | '%' :: a :: b :: rest =>
    if Text.isHexDigit a && Text.isHexDigit b then do
      let (bytes, after) ← percentBytes rest
      return ((Text.readHex [a, b]).toUInt8 :: bytes, after)
    else refuse
  | '%' :: _ => refuse
  | text => .ok ([], text)

/-- The characters of a tag with its codes written out, in at most so many steps. -/
def decodeTag : Nat → List Char → Reading (List Char)
  | 0, _ => refuse
  | _, [] => .ok []
  | bound + 1, c :: rest =>
    if c == '%' then do
      let (bytes, after) ← percentBytes (c :: rest)
      match String.fromUTF8? ⟨bytes.toArray⟩ with
      | some text => return text.toList ++ (← decodeTag bound after)
      | none => refuse
    else do return c :: (← decodeTag bound rest)

/-- Reads the characters of a tag. -/
def takeTagText (c : Cursor) : Reading (String × Cursor) := do
  let (chars, c) := c.take isTagChar
  if chars.isEmpty then refuse
  return (String.ofList (← decodeTag (chars.length + 1) chars), c)

/-- Reads the handle of a tag: an exclamation mark, or a name between two. -/
def takeHandle (c : Cursor) : Reading (String × Cursor) :=
  match c.rest with
  | '!' :: rest =>
    if startsWith (· == ' ') rest then .ok ("!", c.next)
    else
      let (name, c) := c.next.take isNameChar
      if startsWith (· == '!') c.rest then .ok (String.ofList ('!' :: name ++ ['!']), c.next)
      else refuse
  | _ => refuse

/-- Reads a tag: its handle and what follows it. -/
def readTag (c : Cursor) : Reading (Option String × String × Cursor) := do
  let after := c.rest.drop 1
  if startsWith (· == '<') after then
    let (text, c) ← takeTagText (c.skip 2)
    if startsWith (· == '>') c.rest then return (none, text, c.next) else refuse
  else if atBlank after then return (none, "!", c.next)
  else if (after.takeWhile fun char => !(char == ' ' || isBreak char)).contains '!' then
    let (handle, c) ← takeHandle c
    let (text, c) ← takeTagText c
    return (some handle, text, c)
  else
    let (text, c) ← takeTagText c.next
    return (some "!", text, c)

/-- Takes a tag. -/
def takeTag (s : Scanner) : Reading Scanner := do
  let s ← s.saveCandidate
  let (handle, text, cursor) ← readTag s.cursor
  if !atGap cursor.rest then refuse
  return { s.push (.tag handle text) with cursor, keyAllowed := false }

/-- Reads the digits of a version number. -/
def takeDigits (c : Cursor) : Reading (String × Cursor) :=
  let (digits, c) := c.take Char.isDigit
  if digits.isEmpty then refuse
  else .ok (String.ofList (Nat.toDigits 10 (Double.readDigits digits)), c)

/-- Reads the arguments of a directive. -/
def readArguments (name : String) (c : Cursor) : Reading (List String × Cursor) := do
  if name = "YAML" then
    let (major, c) ← takeDigits c.skipSpaces
    if !startsWith (· == '.') c.rest then refuse
    let (minor, c) ← takeDigits c.next
    if !atGap c.rest then refuse
    return ([major, minor], c)
  else if name = "TAG" then
    let (handle, c) ← takeHandle c.skipSpaces
    if !startsWith (· == ' ') c.rest then refuse
    let (text, c) ← takeTagText c.skipSpaces
    if !atGap c.rest then refuse
    return ([handle, text], c)
  else return ([], c.skipWhile (!isBreak ·))

/-- Takes a directive. -/
def takeDirective (s : Scanner) : Reading Scanner := do
  let s ← s.reset
  let (name, c) ← takeName atGap s.cursor.next
  let (arguments, c) ← readArguments name c
  return { s.push (.directive name arguments) with cursor := ← c.endLine }

/-- Takes a mark between documents. -/
def takeSeparator (s : Scanner) (token : Token) : Reading Scanner := do
  return (← s.reset).pushSkip token 3

/-- Takes a block of lines. -/
def takeBlock (s : Scanner) (folds : Bool) : Reading Scanner := do
  let s ← s.dropCandidate
  let (text, cursor) ← readBlock folds s.indent s.cursor.next
  return { s.push (.scalar (String.ofList text) false) with cursor, keyAllowed := true }

/-- Takes a scalar in quotes. -/
def takeQuoted (s : Scanner) (mark : Char) : Reading Scanner := do
  let s ← s.saveCandidate
  let (text, cursor) ← readQuoted mark (s.cursor.rest.length + 1) [] s.cursor.next
  return { s.push (.scalar (String.ofList text) false) with cursor, keyAllowed := false }

/-- Takes a plain scalar. A key may follow if it ends with a line break. -/
def takePlain (s : Scanner) : Reading Scanner := do
  let s ← s.saveCandidate
  let (text, keyAllowed, cursor) :=
    readPlain s.inFlow (s.indent + 1) (s.cursor.rest.length + 1) [] false s.cursor
  return { s.push (.scalar (String.ofList text) true) with cursor, keyAllowed }

/-- Whether a plain scalar may begin a text. -/
def startsPlain (inFlow : Bool) (text : List Char) : Bool :=
  match text with
  | [] => false
  | c :: rest =>
    let marks := "-?:,[]\x7b\x7d#&*!|>'\"%@\x60".toList
    (!isSpace c && !isBreak c && !marks.contains c)
      || (!atBlank rest && (c == '-' || (!inFlow && (c == '?' || c == ':'))))

/-- Takes a token that begins with a character. -/
def takeToken (s : Scanner) (c : Char) (rest : List Char) : Reading Scanner :=
  let atMargin := s.cursor.column = 0
  let separates := atSeparator (c :: rest)
  if atMargin ∧ c = '%' then s.takeDirective
  else if atMargin ∧ separates ∧ c = '-' then s.takeSeparator .documentStart
  else if atMargin ∧ separates ∧ c = '.' then s.takeSeparator .documentEnd
  else if c = '[' then s.takeOpening .openBracket
  else if c = '\x7b' then s.takeOpening .openBrace
  else if c = ']' then s.takeClosing .closeBracket
  else if c = '\x7d' then s.takeClosing .closeBrace
  else if c = ',' then s.takeComma
  else if c = '-' ∧ atBlank rest then s.takeMark .listStart .entry true
  else if c = '?' ∧ (s.inFlow ∨ atBlank rest) then s.takeMark .mappingStart .key !s.inFlow
  else if c = ':' ∧ (s.inFlow ∨ atBlank rest) then s.takeValue
  else if c = '*' then s.takeAnchor .alias
  else if c = '&' then s.takeAnchor .anchor
  else if c = '!' then s.takeTag
  else if c = '|' ∧ !s.inFlow then s.takeBlock false
  else if c = '>' ∧ !s.inFlow then s.takeBlock true
  else if c = '\'' ∨ c = '"' then s.takeQuoted c
  else if startsPlain s.inFlow (c :: rest) then s.takePlain
  else refuse

/-- Takes all tokens, of which there are at most so many. -/
def run : Nat → Scanner → Reading (List Token)
  | 0, _ => refuse
  | bound + 1, s => do
    let s := s.skipSpace (s.cursor.rest.length + 1)
    let s ← s.dropStale
    let s := s.unwind s.cursor.column
    match s.cursor.rest with
    | [] =>
      if s.inFlow then refuse
      return (← s.reset).tokens.reverse
    | c :: rest => run bound (← s.takeToken c rest)

end Scanner

/-- Whether a character may stand in a text. -/
def isAllowed (c : Char) : Bool :=
  c == '\t' || c == '\n' || c == '\r' || (' ' ≤ c && c ≤ '~') || c == '\u0085'
    || ('\u00a0' ≤ c && c ≤ '\uFFFD') || 0x10000 ≤ c.toNat

/-- The tokens of a text, which may begin with a byte order mark. -/
def Token.ofText (text : String) : Reading (List Token) := do
  let chars := text.toList
  if !chars.all isAllowed then refuse
  let start : Cursor := { rest := chars }
  let cursor := if startsWith (· == '\uFEFF') chars then start.next else start
  Scanner.run (chars.length + 2) { cursor }

end Docbase.Yaml
