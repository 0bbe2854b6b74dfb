import Docbase.Pattern.Reading
import Docbase.Text.Table

/-!
# Reading a pattern

The grammar of patterns: escapes, sets, repetitions, groups and inline flags, each refused with
its cause and place when it is malformed. The two mutually recursive readers take a bound that
every round lowers while it takes at least one token.
-/

namespace Docbase.Pattern.Reading

open Docbase.Text

/-- Whether a character is an octal digit. -/
def isOctal (c : Char) : Bool :=
  '0' ≤ c && c ≤ '7'

/-- The number that octal digits write. -/
def readOctal (digits : List Char) : Nat :=
  digits.foldl (fun n c => 8 * n + (c.toNat - 48)) 0

/-- Whether a character is skipped when blanks do not count. -/
def isLayout (c : Char) : Bool :=
  c == ' ' || (9 ≤ c.toNat && c.toNat ≤ 13)

/-- The code that a letter stands for after a backslash. -/
def controlCode? : Char → Option Nat
  | 'a' => some 7
  | 'b' => some 8
  | 'f' => some 12
  | 'n' => some 10
  | 'r' => some 13
  | 't' => some 9
  | 'v' => some 11
  | '\\' => some 92
  | _ => none

/-- The class that a letter stands for after a backslash. -/
def kindOf? : Char → Option SetItem
  | 'd' => some (.kind .digit false)
  | 'D' => some (.kind .digit true)
  | 's' => some (.kind .space false)
  | 'S' => some (.kind .space true)
  | 'w' => some (.kind .word false)
  | 'W' => some (.kind .word true)
  | _ => none

/-- The condition that a letter stands for after a backslash. -/
def anchorOf? : Char → Option Anchor
  | 'A' => some .textStart
  | 'Z' => some .textEnd
  | 'b' => some (.boundary false)
  | 'B' => some (.boundary true)
  | _ => none

/-- Characters that can be named in patterns, by code: the signs of the seven-bit range, and only
some of the many beyond it. The names of all others, but for the letters and digits that are named
by rule, are left out, and refused as if no character had them. -/
def characterNames : List (String × Nat) :=
  [("NULL", 0), ("SPACE", 32), ("EXCLAMATION MARK", 33), ("QUOTATION MARK", 34),
    ("NUMBER SIGN", 35), ("DOLLAR SIGN", 36), ("PERCENT SIGN", 37), ("AMPERSAND", 38),
    ("APOSTROPHE", 39), ("LEFT PARENTHESIS", 40), ("RIGHT PARENTHESIS", 41), ("ASTERISK", 42),
    ("PLUS SIGN", 43), ("COMMA", 44), ("HYPHEN-MINUS", 45), ("FULL STOP", 46), ("SOLIDUS", 47),
    ("COLON", 58), ("SEMICOLON", 59), ("LESS-THAN SIGN", 60), ("EQUALS SIGN", 61),
    ("GREATER-THAN SIGN", 62), ("QUESTION MARK", 63), ("COMMERCIAL AT", 64),
    ("LEFT SQUARE BRACKET", 91), ("REVERSE SOLIDUS", 92), ("RIGHT SQUARE BRACKET", 93),
    ("CIRCUMFLEX ACCENT", 94), ("LOW LINE", 95), ("GRAVE ACCENT", 96),
    ("LEFT CURLY BRACKET", 123), ("VERTICAL LINE", 124), ("RIGHT CURLY BRACKET", 125),
    ("TILDE", 126), ("NO-BREAK SPACE", 160), ("SECTION SIGN", 167), ("COPYRIGHT SIGN", 169),
    ("DEGREE SIGN", 176), ("MICRO SIGN", 181), ("LATIN SMALL LETTER SHARP S", 223),
    ("LATIN SMALL LETTER E WITH ACUTE", 233), ("LATIN CAPITAL LETTER E WITH ACUTE", 201),
    ("LATIN SMALL LETTER E WITH GRAVE", 232), ("LATIN SMALL LETTER O WITH DIAERESIS", 246),
    ("LATIN SMALL LETTER U WITH DIAERESIS", 252), ("LATIN SMALL LETTER A WITH DIAERESIS", 228),
    ("LATIN SMALL LETTER N WITH TILDE", 241), ("GREEK SMALL LETTER ALPHA", 945),
    ("GREEK SMALL LETTER BETA", 946), ("GREEK SMALL LETTER OMEGA", 969),
    ("EN DASH", 8211), ("EM DASH", 8212), ("BULLET", 8226), ("HORIZONTAL ELLIPSIS", 8230),
    ("EURO SIGN", 8364), ("SNOWMAN", 9731)]

/-- The code of a character by its name; letters and digits of the seven-bit range are named by
rule. -/
def codeOfName? (name : String) : Option Nat :=
  let wanted := name.map Char.toUpper
  match characterNames.lookup wanted with
  | some code => some code
  | none =>
    let letters := (List.range 26).flatMap fun i =>
      let letter := String.ofList [Char.ofNat (65 + i)]
      [("LATIN CAPITAL LETTER " ++ letter, 65 + i), ("LATIN SMALL LETTER " ++ letter, 97 + i)]
    let digits := ["ZERO", "ONE", "TWO", "THREE", "FOUR", "FIVE", "SIX", "SEVEN", "EIGHT", "NINE"]
    (letters ++ digits.zipIdx.map fun (digit, i) => ("DIGIT " ++ digit, 48 + i)).lookup wanted

/-- The number after a backslash and a letter, with exactly `count` hexadecimal digits. -/
def hexEscape (letter : Char) (count : Nat) : Reading Nat := do
  let digits ← takeClass isHexDigit count
  let escape := String.ofList ('\\' :: letter :: digits)
  if digits.length < count then refuse (.incompleteEscape escape) escape.length
  let code := readHex digits
  if 0x110000 ≤ code then refuse (.badEscape escape) escape.length
  return code

/-- The character named after `\N`. -/
def namedEscape : Reading Nat := do
  if !(← accept '{') then refuse (.missingMark "\x7b") 0
  let name ← name '}' "character name"
  match codeOfName? name with
  | some code => return code
  | none => refuse (.undefinedCharacter name) (name.length + 4)

/-- The escapes for single characters that mean the same inside and outside of sets, for the
letter after the backslash. -/
def commonEscape (letter : Char) : Reading Nat := do
  match letter with
  | 'x' => hexEscape 'x' 2
  | 'u' => hexEscape 'u' 4
  | 'U' => hexEscape 'U' 8
  | 'N' => namedEscape
  | c =>
    if isAsciiLetter c || isAsciiDigit c then refuse (.badEscape (String.ofList ['\\', c])) 2
    else return c.toNat

/-- Octal digits after a backslash, as a code of one byte. -/
def octalEscape (digits : List Char) : Reading Nat := do
  let escape := String.ofList ('\\' :: digits)
  let code := readOctal digits
  if 0o377 < code then refuse (.octalRange escape) escape.length
  return code

/-- An escape inside a set. -/
def setEscape (letter : Char) : Reading SetItem := do
  match controlCode? letter, kindOf? letter with
  | some code, _ => return .single code
  | none, some item => return item
  | none, none =>
    if isOctal letter then
      return .single (← octalEscape (letter :: (← takeClass isOctal 2)))
    else return .single (← commonEscape letter)

/-- A reference to a group by number, written with `size` characters. -/
def reference (number size : Nat) : Reading Regex := do
  if (← get).groups.length < number then refuse (.invalidReference number) (size - 1)
  if !(← isClosed number) then refuse .openGroup size
  checkLookbehind number
  return .again number

/-- An escape that begins with a digit other than zero: three octal digits are a character, and
one or two digits a reference. -/
def digitEscape (first : Char) : Reading Regex := do
  match ← takeClass isAsciiDigit 1 with
  | [second] =>
    let third ← if isOctal first && isOctal second then takeClass isOctal 1 else pure []
    match third with
    | [third] => return .char (← octalEscape [first, second, third])
    | _ => reference (10 * (first.toNat - 48) + (second.toNat - 48)) 3
  | _ => reference (first.toNat - 48) 2

/-- An escape outside of sets. -/
def escape (letter : Char) : Reading Regex := do
  match anchorOf? letter, kindOf? letter, controlCode? letter with
  | some anchor, _, _ => return .anchor anchor
  | none, some item, _ => return .oneOf false [item]
  | none, none, some code => return .char code
  | none, none, none =>
    if letter == '0' then
      return .char (readOctal (← takeClass isOctal 2))
    else if isAsciiDigit letter then digitEscape letter
    else return .char (← commonEscape letter)

/-- The end of a range: a character or an escape. -/
def setMember : Token → Reading SetItem
  | .plain c => return .single c.toNat
  | .escaped c => setEscape c
  | .dangling => return .single 92

/-- The members of a set up to its closing bracket. A closing bracket that comes first is a
member. `start` is the place of the opening bracket. -/
def setItems (start : Nat) : Nat → List SetItem → Reading (List SetItem)
  | 0, items => return items
  | fuel + 1, items => do
    match ← take with
    | none => refuse .unterminatedSet ((← get).position - start)
    | some first =>
      if first = .plain ']' ∧ !items.isEmpty then return items
      else
        let low ← setMember first
        if ← accept '-' then
          match ← take with
          | none => refuse .unterminatedSet ((← get).position - start)
          | some last =>
            if last = .plain ']' then return items ++ [low, .single 45]
            else
              let high ← setMember last
              match low, high with
              | .single lo, .single hi =>
                if hi < lo then
                  refuse (.badRange first.text last.text) (first.size + 1 + last.size)
                else setItems start fuel (items ++ [.range lo hi])
              | _, _ => refuse (.badRange first.text last.text) (first.size + 1 + last.size)
        else setItems start fuel (items ++ [low])

/-- A set, after its opening bracket. -/
def set : Reading Regex := do
  let start := (← get).position - 1
  let negated ← accept '^'
  let items ← setItems start ((← get).tokens.length + 1) []
  match items.eraseDups with
  | [.single code] => return if negated then .otherThan code else .char code
  | items => return .oneOf negated items

/-- The number that the digits of a bound write. -/
def boundOf (digits : List Char) : Reading Nat := do
  if digitLimit < digits.length then throw .countUnreadable
  let count := digits.foldl (fun n c => 10 * n + (c.toNat - 48)) 0
  if maxRounds ≤ count then throw .countTooLarge
  return count

/-- The bounds of a repetition in braces, after the opening brace; `none` when the brace does not
open a repetition, and then nothing has been taken. -/
def bounds : Reading (Option (Nat × Option Nat)) := do
  let before ← get
  if (← next) == some (.plain '}') then return none
  let low ← takeClass isAsciiDigit before.tokens.length
  let high ← if ← accept ',' then takeClass isAsciiDigit before.tokens.length else pure low
  if !(← accept '}') then
    StateT.set before
    return none
  let least ← boundOf low
  if high.isEmpty then return some (least, none)
  let most ← boundOf high
  if most < least then refuse .boundsReversed ((← get).position - before.position)
  return some (least, some most)

/-- Puts a repetition around the last of the parts read so far, which are given in reverse. The
repetition sign stands at `start`. -/
def repeatLast (start least : Nat) (most : Option Nat) (parts : List Regex) :
    Reading (List Regex) := do
  let back := (← get).position - start
  match parts with
  | [] => refuse .nothingToRepeat back
  | .anchor _ :: _ => refuse .nothingToRepeat back
  | .rounds .. :: _ => refuse .multipleRepeat back
  | part :: before =>
    if ← accept '?' then return .rounds least most .reluctant part :: before
    if ← accept '+' then return .rounds least most .possessive part :: before
    return .rounds least most .greedy part :: before

/-- Skips a comment up to the end of its line. -/
def skipLine : Nat → Reading Unit
  | 0 => return ()
  | fuel + 1 => do
    match ← take with
    | none => return ()
    | some token => if token = .plain '\n' then return () else skipLine fuel

/-- Skips a comment in parentheses that opens at `start`. -/
def skipComment (start : Nat) : Nat → Reading Unit
  | 0 => return ()
  | fuel + 1 => do
    match ← take with
    | none => refuse .unterminatedComment ((← get).position - start)
    | some token => if token = .plain ')' then return () else skipComment start fuel

/-- The cause for refusing a token where a flag or one of the given marks has to stand. -/
def flagProblem (token : Token) (missing : Problem) : Problem :=
  match token with
  | .plain c => if isAlphabetic c then .unknownFlag else missing
  | _ => missing

/-- Letters of flags to turn on, the first of them already taken, up to a closing mark, which is
returned. -/
def flagsOn : Nat → Flags → Char → Reading (Flags × Char)
  | 0, flags, letter => return (flags, letter)
  | fuel + 1, flags, letter => do
    if letter == 'L' then refuse .localeFlag 0
    let flags := flags.union ((Flags.ofLetter? letter).getD {})
    if flags.ascii && flags.unicode then refuse .incompatibleFlags 0
    match ← take with
    | none => refuse (.missingMark "-, : or )") 0
    | some (.plain c) =>
      if c == ')' || c == '-' || c == ':' then return (flags, c)
      else if c == 'L' || (Flags.ofLetter? c).isSome then flagsOn fuel flags c
      else refuse (flagProblem (.plain c) (.missingMark "-, : or )")) 1
    | some token => refuse (.missingMark "-, : or )") token.size

/-- Letters of flags to turn off, up to the colon. -/
def flagsOff : Nat → Flags → Token → Reading Flags
  | 0, flags, _ => return flags
  | fuel + 1, flags, token => do
    let letter := match token with
      | .plain c => c
      | _ => 'L'
    if letter == 'L' || letter == 'a' || letter == 'u' then refuse .kindOff 0
    let flags := flags.union ((Flags.ofLetter? letter).getD {})
    match ← take with
    | none => refuse (.missingMark ":") 0
    | some (.plain ':') => return flags
    | some (.plain c) =>
      if c == 'L' || (Flags.ofLetter? c).isSome then flagsOff fuel flags (.plain c)
      else refuse (flagProblem (.plain c) (.missingMark ":")) 1
    | some token => refuse (.missingMark ":") token.size

/-- Inline flags, after the first letter or the minus sign: flags for the whole pattern, which are
set at once, or those turned on and off for a group. -/
def inlineFlags (first : Char) : Reading (Option (Flags × Flags)) := do
  let fuel := (← get).tokens.length + 1
  let (on, mark) ← if first == '-' then pure ({}, '-') else flagsOn fuel {} first
  if mark == ')' then
    modify fun progress => { progress with flags := progress.flags.union on }
    return none
  if on.template then refuse .globalFlagOn 1
  let off ← if mark == '-' then
      match ← take with
      | none => refuse .missingFlag 0
      | some (.plain c) =>
        if c == 'L' || (Flags.ofLetter? c).isSome then flagsOff fuel {} (.plain c)
        else refuse (flagProblem (.plain c) .missingFlag) 1
      | some token => refuse .missingFlag token.size
    else pure {}
  if off.template then refuse .globalFlagOff 1
  if on.meets off then refuse .flagOnAndOff 1
  return some (on, off)

/-- Checks a group name `size` characters long that has just been closed. -/
def checkGroupName (name : String) : Reading Unit := do
  if !isIdentifier name.toList then refuse (.badGroupName name) (name.length + 1)

/-- A reference to a group by name, after its opening. -/
def namedReference : Reading Regex := do
  let name ← name ')' "group name"
  checkGroupName name
  match (← get).names.lookup name with
  | none => refuse (.unknownGroup name) (name.length + 1)
  | some number =>
    if !(← isClosed number) then refuse .openGroup (name.length + 1)
    checkLookbehind number
    return .again number

/-- A group number that can be read, with blanks around it, a plus sign and single underscores
allowed. -/
def groupNumber? (name : String) : Option Nat :=
  let body := match trim name.toList with
    | '+' :: rest => rest
    | rest => rest
  let parts := body.splitOn '_'
  let digits := parts.flatten
  let isNumber := parts.all fun part => !part.isEmpty && part.all isAsciiDigit
  if isNumber && digits.length ≤ digitLimit then
    some (digits.foldl (fun n c => 10 * n + (c.toNat - 48)) 0)
  else none

/-- The group that a choice refers to, after the second opening parenthesis. -/
def choiceGroup : Reading Nat := do
  let name ← name ')' "group name"
  let back := name.length + 1
  let number ←
    if isIdentifier name.toList then
      match (← get).names.lookup name with
      | some number => pure number
      | none => refuse (.unknownGroup name) back
    else match groupNumber? name with
      | none => refuse (.badGroupName name) back
      | some 0 => refuse .badGroupNumber back
      | some number =>
        if Nat.pow 2 30 - 1 ≤ number then refuse (.invalidReference number) back
        let progress ← get
        if (progress.choices.lookup number).isNone then
          StateT.set { progress with
            choices := progress.choices ++ [(number, progress.position - back)] }
        pure number
  checkLookbehind number
  return number

/-- Closes a group that opened at `start`. -/
def closing (start : Nat) : Reading Unit := do
  if !(← accept ')') then refuse .unterminatedGroup ((← get).position - start)

/-- What the head of a group says about its contents. -/
inductive Head where
  /-- Nothing more is to be read. -/
  | done (part : Option Regex)
  /-- A group that is remembered, under a name or not. -/
  | remembered (name : Option String)
  /-- A group with flags changed. -/
  | flagged (add remove : Flags)
  /-- A group whose first match is final. -/
  | final
  /-- A condition on the text ahead or behind. -/
  | around (behind negated : Bool)
  /-- A choice by a group. -/
  | choice (number : Nat)
  /-- Flags for the whole pattern. -/
  | global

/-- The head of a group, after its opening parenthesis at `start`. -/
def head (start : Nat) : Reading Head := do
  if !(← accept '?') then return .remembered none
  match ← take with
  | none => refuse .unexpectedEnd 0
  | some (.plain 'P') =>
    if ← accept '<' then
      let name ← name '>' "group name"
      checkGroupName name
      return .remembered (some name)
    if ← accept '=' then return .done (some (← namedReference))
    match ← take with
    | none => refuse .unexpectedEnd 0
    | some token => refuse (.unknownExtension ("P" ++ token.text)) (token.size + 2)
  | some (.plain ':') => return .flagged {} {}
  | some (.plain '#') =>
    skipComment start ((← get).tokens.length + 1)
    return .done none
  | some (.plain '=') => return .around false false
  | some (.plain '!') => return .around false true
  | some (.plain '<') =>
    match ← take with
    | none => refuse .unexpectedEnd 0
    | some (.plain '=') => return .around true false
    | some (.plain '!') => return .around true true
    | some token => refuse (.unknownExtension ("<" ++ token.text)) (token.size + 2)
  | some (.plain '(') => return .choice (← choiceGroup)
  | some (.plain '>') => return .final
  | some token =>
    match token with
    | .plain c =>
      if c == '-' || c == 'L' || (Flags.ofLetter? c).isSome then
        match ← inlineFlags c with
        | none => return .global
        | some (add, remove) => return .flagged add remove
      else refuse (.unknownExtension token.text) (token.size + 1)
    | _ => refuse (.unknownExtension token.text) (token.size + 1)

mutual

/-- Alternatives separated by bars. `nested` tells whether they stand inside a group. -/
def alternatives : Nat → (verbose nested : Bool) → List Regex → Reading Regex
  | 0, _, _, read => return .branches read
  | fuel + 1, verbose, nested, read => do
    let parts ← parts fuel verbose (!nested && read.isEmpty) []
    let read := read ++ [.sequence parts]
    if ← accept '|' then
      let whole := (← get).flags.verbose
      alternatives fuel (if nested then verbose else whole) nested read
    else match read with
      | [only] => return only
      | several => return .branches several

/-- Parts that follow one another, up to a bar, a closing parenthesis or the end. `first` tells
whether flags for the whole pattern may still stand here; the parts read so far are in reverse. -/
def parts : Nat → (verbose first : Bool) → List Regex → Reading (List Regex)
  | 0, _, _, read => return read.reverse
  | fuel + 1, verbose, first, read => do
    match ← next with
    | none => return read.reverse
    | some (.plain '|') => return read.reverse
    | some (.plain ')') => return read.reverse
    | some token =>
      let start := (← get).position
      let _ ← take
      match token with
      | .dangling => return read.reverse
      | .escaped c => parts fuel verbose first ((← escape c) :: read)
      | .plain c =>
        if verbose && isLayout c then parts fuel verbose first read
        else if verbose && c == '#' then
          skipLine ((← get).tokens.length + 1)
          parts fuel verbose first read
        else match c with
        | '[' => parts fuel verbose first ((← set) :: read)
        | '?' => parts fuel verbose first (← repeatLast start 0 (some 1) read)
        | '*' => parts fuel verbose first (← repeatLast start 0 none read)
        | '+' => parts fuel verbose first (← repeatLast start 1 none read)
        | '{' =>
          match ← bounds with
          | none => parts fuel verbose first (.char 123 :: read)
          | some (least, most) => parts fuel verbose first (← repeatLast start least most read)
        | '.' => parts fuel verbose first (.any :: read)
        | '^' => parts fuel verbose first (.anchor .lineStart :: read)
        | '$' => parts fuel verbose first (.anchor .lineEnd :: read)
        | '(' =>
          match ← head start with
          | .done none => parts fuel verbose first read
          | .done (some part) => parts fuel verbose first (part :: read)
          | .global =>
            if !first || !read.isEmpty then refuse .lateFlags ((← get).position - start)
            parts fuel (← get).flags.verbose first read
          | .around behind negated =>
            let outer := (← get).lookbehind
            if behind && outer.isNone then
              modify fun progress => { progress with lookbehind := some progress.groups.length }
            let body ← alternatives fuel verbose true []
            if behind && outer.isNone then
              modify fun progress => { progress with lookbehind := none }
            closing start
            parts fuel verbose first (.look (if behind then some 0 else none) negated body :: read)
          | .choice number =>
            let yes ← parts fuel verbose false []
            let no ← if ← accept '|' then
                let no ← parts fuel verbose false []
                if (← next) == some (.plain '|') then refuse .manyBranches 0
                pure no
              else pure []
            closing start
            parts fuel verbose first (.conditional number (.sequence yes) (.sequence no) :: read)
          | .final =>
            let body ← alternatives fuel verbose true []
            closing start
            parts fuel verbose first (.atomic body :: read)
          | .flagged add remove =>
            let inner := (verbose || add.verbose) && !remove.verbose
            let body ← alternatives fuel inner true []
            closing start
            parts fuel verbose first (.group none add remove body :: read)
          | .remembered name =>
            let number ← openGroup name
            let body ← alternatives fuel verbose true []
            closing start
            closeGroup number body
            parts fuel verbose first (.group (some number) {} {} body :: read)
        | c => parts fuel verbose first (.char c.toNat :: read)

end

/-- A whole pattern. -/
def whole (fuel : Nat) : Reading Regex := do
  settle
  let tree ← alternatives fuel (← get).flags.verbose false []
  let progress ← get
  if progress.flags.ascii && progress.flags.unicode then throw .flagConflict
  if (← next).isSome then refuse .unbalanced 0
  match progress.choices.find? fun choice => progress.groups.length < choice.1 with
  | some (number, position) => throw (.malformed (.invalidReference number) (some position))
  | none => return tree

end Docbase.Pattern.Reading
