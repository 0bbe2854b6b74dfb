/-!
# Search patterns

The syntax tree of a search pattern, the flags that change what its parts mean, and the least and
greatest number of characters that a part can take up.
-/

namespace Docbase.Pattern

/-- Switches that change how a pattern is read or matched. -/
structure Flags where
  /-- Letters match in either case. -/
  ignoreCase : Bool := false
  /-- `^` and `$` match at every line. -/
  multiline : Bool := false
  /-- `.` matches a line feed too. -/
  dotAll : Bool := false
  /-- Blanks and comments in the pattern are skipped. -/
  verbose : Bool := false
  /-- Character classes and letter case are those of the seven-bit range. -/
  ascii : Bool := false
  /-- Character classes and letter case are those of all scripts, asked for by name. -/
  unicode : Bool := false
  /-- Repetition is refused. -/
  template : Bool := false
  deriving DecidableEq, Repr, Inhabited

namespace Flags

/-- All switches that are on in either set. -/
def union (a b : Flags) : Flags where
  ignoreCase := a.ignoreCase || b.ignoreCase
  multiline := a.multiline || b.multiline
  dotAll := a.dotAll || b.dotAll
  verbose := a.verbose || b.verbose
  ascii := a.ascii || b.ascii
  unicode := a.unicode || b.unicode
  template := a.template || b.template

/-- The switches of the first set that are not in the second. -/
def minus (a b : Flags) : Flags where
  ignoreCase := a.ignoreCase && !b.ignoreCase
  multiline := a.multiline && !b.multiline
  dotAll := a.dotAll && !b.dotAll
  verbose := a.verbose && !b.verbose
  ascii := a.ascii && !b.ascii
  unicode := a.unicode && !b.unicode
  template := a.template && !b.template

/-- Whether every switch is off. -/
def isEmpty (a : Flags) : Bool :=
  a == {}

/-- Whether two sets share a switch. -/
def meets (a b : Flags) : Bool :=
  a.minus b != a

/-- The flags inside a group that turns some on and some off. Naming a kind of character classes
replaces the kind that was in force. -/
def within (outer add remove : Flags) : Flags :=
  let base := if add.ascii || add.unicode then { outer with ascii := false, unicode := false }
    else outer
  (base.union add).minus remove

/-- The switch for an inline letter. -/
def ofLetter? : Char → Option Flags
  | 'i' => some { ignoreCase := true }
  | 'm' => some { multiline := true }
  | 's' => some { dotAll := true }
  | 'x' => some { verbose := true }
  | 'a' => some { ascii := true }
  | 'u' => some { unicode := true }
  | 't' => some { template := true }
  | _ => none

end Flags

/-- The kinds of characters that a class escape names. -/
inductive CharKind where
  /-- Decimal digits. -/
  | digit
  /-- White space. -/
  | space
  /-- Letters, numerals and the underscore. -/
  | word
  deriving DecidableEq, Repr

/-- A member of a character set. Characters are given by their code. -/
inductive SetItem where
  /-- One character. -/
  | single (code : Nat)
  /-- All characters between two, both included. -/
  | range (lo hi : Nat)
  /-- A kind of characters, or all others. -/
  | kind (kind : CharKind) (negated : Bool)
  deriving DecidableEq, Repr

/-- Conditions on a place in the text. -/
inductive Anchor where
  /-- `^`: the beginning, or that of a line. -/
  | lineStart
  /-- `$`: the end, before a final line feed, or the end of a line. -/
  | lineEnd
  /-- The beginning of the text. -/
  | textStart
  /-- The end of the text. -/
  | textEnd
  /-- Between a word character and one that is none, or the reverse. -/
  | boundary (negated : Bool)
  deriving DecidableEq, Repr

/-- How a repetition chooses its number of rounds. -/
inductive Greed where
  /-- As many as possible, fewer if the rest needs it. -/
  | greedy
  /-- As few as possible. -/
  | reluctant
  /-- As many as possible, whatever the rest needs. -/
  | possessive
  deriving DecidableEq, Repr

/-- A pattern. -/
inductive Regex where
  /-- A character, given by its code. -/
  | char (code : Nat)
  /-- Any character but one. -/
  | otherThan (code : Nat)
  /-- A character inside or outside a set. -/
  | oneOf (negated : Bool) (items : List SetItem)
  /-- Any character but a line feed. -/
  | any
  /-- A condition on the place. -/
  | anchor (anchor : Anchor)
  /-- One part after the other. -/
  | sequence (parts : List Regex)
  /-- The first branch that leads to a match. -/
  | branches (parts : List Regex)
  /-- A part several times; without an upper bound when `most` is `none`. -/
  | rounds (least : Nat) (most : Option Nat) (greed : Greed) (body : Regex)
  /-- A part in parentheses, remembered under its number if it has one, with flags changed. -/
  | group (number : Option Nat) (add remove : Flags) (body : Regex)
  /-- A part whose first match is final. -/
  | atomic (body : Regex)
  /-- A part that has to match, or not to match, from here on or up to here, without being taken;
  `behind` is its number of characters when it looks back. -/
  | look (behind : Option Nat) (negated : Bool) (body : Regex)
  /-- The text that a group has taken. -/
  | again (number : Nat)
  /-- A choice by whether a group has taken part. -/
  | conditional (number : Nat) (yes no : Regex)

/-- The least and the greatest number of characters. -/
abbrev Width := Nat × Nat

/-- The number that stands for every larger width. -/
def maxWidth : Nat := Nat.pow 2 64

/-- The first repetition count that is out of range. -/
def maxRounds : Nat := Nat.pow 2 32 - 1

namespace Regex

mutual

/-- How many characters a pattern can take up, given the widths of its groups by number. -/
def width (groups : Nat → Width) : Regex → Width
  | char _ => (1, 1)
  | otherThan _ => (1, 1)
  | oneOf _ _ => (1, 1)
  | any => (1, 1)
  | anchor _ => (0, 0)
  | sequence parts => widthSum groups parts
  | branches parts => widthChoice groups parts
  | rounds least most _ body =>
    let (lo, hi) := width groups body
    let greatest := match most with
      | none => if hi = 0 then 0 else maxWidth
      | some most => hi * most
    (min (lo * least) maxWidth, min greatest maxWidth)
  | group _ _ _ body => width groups body
  | atomic body => width groups body
  | look _ _ _ => (0, 0)
  | again number => groups number
  | conditional _ yes no =>
    let (lo, hi) := width groups yes
    let (lo', hi') := width groups no
    (min lo lo', max hi hi')

/-- The width of parts that follow one another. -/
def widthSum (groups : Nat → Width) : List Regex → Width
  | [] => (0, 0)
  | part :: rest =>
    let (lo, hi) := width groups part
    let (lo', hi') := widthSum groups rest
    (min (lo + lo') maxWidth, min (hi + hi') maxWidth)

/-- The width of parts of which one is chosen. -/
def widthChoice (groups : Nat → Width) : List Regex → Width
  | [] => (maxWidth, 0)
  | part :: rest =>
    let (lo, hi) := width groups part
    let (lo', hi') := widthChoice groups rest
    (min lo lo', max hi hi')

end

end Regex

end Docbase.Pattern
