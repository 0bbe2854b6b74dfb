import Docbase.Pattern.Syntax
import Docbase.Text.Case

/-!
# Matching

A pattern is matched at a place of a text by passing what has to follow it as a continuation, so
that a choice made earlier is taken back when the rest fails. Repetitions whose body takes nothing
stop after one round at a place.
-/

namespace Docbase.Pattern

open Docbase.Text

/-- A place in a text, and the places where groups began and ended on the way there. The group
with number `n` begins at mark `2n` and ends at mark `2n + 1`. -/
structure Cursor where
  /-- The number of characters before the place. -/
  position : Nat
  /-- The marks set so far, the latest first. -/
  marks : List (Nat × Nat) := []

/-- What remains to be done at a place: a way on, or failure. -/
abbrev Rest := Cursor → Option Cursor

namespace Cursor

/-- Sets a mark at the place. -/
def mark (cursor : Cursor) (index : Nat) : Cursor :=
  { cursor with marks := (index, cursor.position) :: cursor.marks }

/-- The span that a group has taken, when it has taken part. -/
def span? (cursor : Cursor) (number : Nat) : Option (Nat × Nat) :=
  match cursor.marks.lookup (2 * number), cursor.marks.lookup (2 * number + 1) with
  | some first, some last => if first ≤ last then some (first, last) else none
  | _, _ => none

end Cursor

/-- Whether a character is of a kind, under the flags. -/
def CharKind.holds (kind : CharKind) (flags : Flags) (c : Char) : Bool :=
  match kind with
  | digit => if flags.ascii then isAsciiDigit c else isDecimal c
  | space => if flags.ascii then c == ' ' || (9 ≤ c.toNat && c.toNat ≤ 13) else isBlank c
  | word =>
    c == '_' ||
      if flags.ascii then isAsciiDigit c || isAsciiLetter c else isAlphanumeric c

/-- The letter that a character is compared by, under the flags. -/
def compared (flags : Flags) (c : Char) : Char :=
  if flags.ascii then (if isAscii c then smallLetter c else c) else smallLetter c

/-- Whether a character has another case, under the flags. -/
def hasCase (flags : Flags) (c : Char) : Bool :=
  if flags.ascii then isAsciiLetter c else hasVariants c

/-- The characters that count as equal to a small letter, under the flags. -/
def equals (flags : Flags) (c : Char) : List Char :=
  if flags.ascii then
    if 'a' ≤ c ∧ c ≤ 'z' then [c, Char.ofNat (c.toNat - 32)] else [c]
  else variants c

/-- Whether a set member mentions a letter that has another case. -/
def SetItem.mentionsCase (flags : Flags) : SetItem → Bool
  | single code => 0x10000 ≤ code || hasCase flags (Char.ofNat code)
  | range lo hi =>
    if flags.ascii then (lo ≤ 122 && 97 ≤ hi) || (lo ≤ 90 && 65 ≤ hi)
    else 0x10000 ≤ hi || ClassTable.paired.meets lo hi
  | kind _ _ => false

/-- Whether a character is what a set member names. The characters given are those that count as
equal, the one met in the text first. -/
def SetItem.holds (flags : Flags) (c : Char) (alike : List Char) : SetItem → Bool
  | single code => if code < 0x10000 then alike.any (·.toNat == code) else c.toNat == code
  | range lo hi => alike.any fun a => lo ≤ a.toNat && a.toNat ≤ hi
  | kind named negated => named.holds flags c != negated

/-- Whether a character belongs to a set, under the flags. -/
def inSet (flags : Flags) (items : List SetItem) (c : Char) : Bool :=
  if flags.ignoreCase && items.any (SetItem.mentionsCase flags) then
    let small := compared flags c
    items.any (SetItem.holds flags small (equals flags small))
  else items.any (SetItem.holds flags c [c])

/-- Whether a character is the one with a given code, under the flags. -/
def isChar (flags : Flags) (code : Nat) (c : Char) : Bool :=
  let wanted := Char.ofNat code
  if flags.ignoreCase && hasCase flags wanted && wanted.toNat == code then
    let small := compared flags wanted
    let met := compared flags c
    met == small || (!flags.ascii && ((CaseTable.akin.find? small.toNat).getD []).contains met)
  else c.toNat == code

/-- Whether a word character stands on exactly one side of a place. -/
def atBoundary (text : Array Char) (flags : Flags) (position : Nat) : Bool :=
  let isWord := fun c? : Option Char => (c?.map (CharKind.word.holds flags)).getD false
  let before := if position = 0 then none else text[position - 1]?
  isWord before != isWord text[position]?

/-- Whether a condition holds at a place. No place of an empty text counts as a boundary or as
being within or outside a word. -/
def Anchor.holds (anchor : Anchor) (text : Array Char) (flags : Flags) (position : Nat) : Bool :=
  match anchor with
  | textStart => position == 0
  | textEnd => position == text.size
  | lineStart => position == 0 || (flags.multiline && text[position - 1]? == some '\n')
  | lineEnd =>
    position == text.size ||
      (text[position]? == some '\n' && (flags.multiline || position + 1 == text.size))
  | boundary negated => text.size != 0 && atBoundary text flags position != negated

/-- Takes one character of a class. -/
def takeOne (text : Array Char) (isMember : Char → Bool) (rest : Rest) : Rest := fun cursor =>
  match text[cursor.position]? with
  | some c => if isMember c then rest { cursor with position := cursor.position + 1 } else none
  | none => none

/-- A body a fixed number of times. -/
def exactly (body : Rest → Rest) (rest : Rest) : Nat → Rest
  | 0, cursor => rest cursor
  | count + 1, cursor => body (fun cursor => exactly body rest count cursor) cursor

/-- Whether another round may start at a place: the bound is not reached, and the round before
did not start here. -/
def mayGoOn (left last : Option Nat) (position : Nat) : Bool :=
  left != some 0 && last != some position

/-- A body as often as possible, fewer times when the rest fails. -/
def greedily (body : Rest → Rest) (rest : Rest) : Nat → (left last : Option Nat) → Rest
  | 0, _, _, cursor => rest cursor
  | fuel + 1, left, last, cursor =>
    if mayGoOn left last cursor.position then
      match body (greedily body rest fuel (left.map (· - 1)) (some cursor.position)) cursor with
      | some found => some found
      | none => rest cursor
    else rest cursor

/-- A body as seldom as possible, more times when the rest fails. -/
def reluctantly (body : Rest → Rest) (rest : Rest) : Nat → (left last : Option Nat) → Rest
  | 0, _, _, cursor => rest cursor
  | fuel + 1, left, last, cursor =>
    match rest cursor with
    | some found => some found
    | none =>
      if mayGoOn left last cursor.position then
        body (reluctantly body rest fuel (left.map (· - 1)) (some cursor.position)) cursor
      else none

/-- A body as often as possible, each round being final. -/
def possessively (body : Rest → Rest) : Nat → (left last : Option Nat) → Cursor → Cursor
  | 0, _, _, cursor => cursor
  | fuel + 1, left, last, cursor =>
    if mayGoOn left last cursor.position then
      match body some cursor with
      | some next => possessively body fuel (left.map (· - 1)) (some cursor.position) next
      | none => cursor
    else cursor

/-- A body a fixed number of times, each round being final. -/
def exactlyFinal (body : Rest → Rest) : Nat → Rest
  | 0, cursor => some cursor
  | count + 1, cursor => (body some cursor).bind (exactlyFinal body count)

/-- A repetition of a body. -/
def repeated (size least : Nat) (most : Option Nat) (greed : Greed) (body : Rest → Rest)
    (rest : Rest) : Rest :=
  let fuel := size + 2
  let left := most.map (· - least)
  match greed with
  | .greedy => exactly body (greedily body rest fuel left none) least
  | .reluctant => exactly body (reluctantly body rest fuel left none) least
  | .possessive => fun cursor =>
    (exactlyFinal body least cursor).bind fun cursor =>
      rest (possessively body fuel left none cursor)

/-- Takes the characters between two places of the text once more. -/
def takeAgain (text : Array Char) (flags : Flags) (first last : Nat) (rest : Rest) : Rest :=
  fun cursor =>
    let same := (List.range (last - first)).all fun i =>
      match text[first + i]?, text[cursor.position + i]? with
      | some a, some b =>
        if flags.ignoreCase then compared flags a == compared flags b else a == b
      | _, _ => false
    if same then rest { cursor with position := cursor.position + (last - first) } else none

namespace Regex

mutual

/-- Matches a pattern at a place and goes on with the rest. -/
def run (text : Array Char) : Regex → Flags → Rest → Rest
  | char code, flags, rest => takeOne text (isChar flags code) rest
  | otherThan code, flags, rest => takeOne text (fun c => !isChar flags code c) rest
  | oneOf negated items, flags, rest => takeOne text (fun c => inSet flags items c != negated) rest
  | any, flags, rest => takeOne text (fun c => flags.dotAll || c != '\n') rest
  | anchor condition, flags, rest => fun cursor =>
    if condition.holds text flags cursor.position then rest cursor else none
  | sequence parts, flags, rest => runAll text parts flags rest
  | branches parts, flags, rest => runFirst text parts flags rest
  | rounds least most greed body, flags, rest =>
    repeated text.size least most greed (run text body flags) rest
  | group none add remove body, flags, rest => run text body (flags.within add remove) rest
  | group (some number) add remove body, flags, rest => fun cursor =>
    run text body (flags.within add remove) (fun cursor => rest (cursor.mark (2 * number + 1)))
      (cursor.mark (2 * number))
  | atomic body, flags, rest => fun cursor => (run text body flags some cursor).bind rest
  | look behind negated body, flags, rest => fun cursor =>
    let back := behind.getD 0
    let found :=
      if back ≤ cursor.position then
        run text body flags some { cursor with position := cursor.position - back }
      else none
    match negated, found with
    | false, some found => rest { found with position := cursor.position }
    | true, none => rest cursor
    | _, _ => none
  | again number, flags, rest => fun cursor =>
    match cursor.span? number with
    | some (first, last) => takeAgain text flags first last rest cursor
    | none => none
  | conditional number yes no, flags, rest => fun cursor =>
    if (cursor.span? number).isSome then run text yes flags rest cursor
    else run text no flags rest cursor

/-- Matches parts one after the other. -/
def runAll (text : Array Char) : List Regex → Flags → Rest → Rest
  | [], _, rest => rest
  | part :: parts, flags, rest => run text part flags (runAll text parts flags rest)

/-- Matches the first branch after which the rest succeeds. -/
def runFirst (text : Array Char) : List Regex → Flags → Rest → Rest
  | [], _, _ => fun _ => none
  | part :: parts, flags, rest => fun cursor =>
    match run text part flags rest cursor with
    | some found => some found
    | none => runFirst text parts flags rest cursor

end

/-- Whether a pattern matches somewhere in a text. -/
def occursIn (tree : Regex) (flags : Flags) (text : String) : Bool :=
  let chars := text.toList.toArray
  (List.range (chars.size + 1)).any fun position =>
    (tree.run chars flags some { position }).isSome

end Regex

end Docbase.Pattern
