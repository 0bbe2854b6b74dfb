import Docbase.Text.Quoted

/-!
# What can be wrong with a pattern

Every cause for which the text of a pattern is refused, with its wording, and the form in which
the place of the fault is added.
-/

namespace Docbase.Pattern

/-- A cause for which a pattern is refused. -/
inductive Problem where
  /-- The pattern ends within an escape. -/
  | danglingEscape
  /-- An escape lacks digits. -/
  | incompleteEscape (escape : String)
  /-- An escape that means nothing. -/
  | badEscape (escape : String)
  /-- An octal escape beyond one byte. -/
  | octalRange (escape : String)
  /-- A character that has to stand here does not. -/
  | missingMark (mark : String)
  /-- A name in brackets is empty or absent. -/
  | missingName (what : String)
  /-- A name is not closed. -/
  | unterminatedName (mark : String)
  /-- No character has this name. -/
  | undefinedCharacter (name : String)
  /-- A group is named before it is closed. -/
  | openGroup
  /-- A group inside a look-behind is named in the same look-behind. -/
  | lookbehindGroup
  /-- There is no such group. -/
  | invalidReference (number : Nat)
  /-- Groups are numbered from one. -/
  | badGroupNumber
  /-- A group name that is no identifier. -/
  | badGroupName (name : String)
  /-- No group has this name. -/
  | unknownGroup (name : String)
  /-- Two groups have one name. -/
  | redefinedGroup (name : String) (second first : Nat)
  /-- A set is not closed. -/
  | unterminatedSet
  /-- A range that runs backwards or whose ends are not characters. -/
  | badRange (first last : String)
  /-- Bounds of a repetition in the wrong order. -/
  | boundsReversed
  /-- A repetition without a part before it. -/
  | nothingToRepeat
  /-- A repetition of a repetition. -/
  | multipleRepeat
  /-- The pattern ends inside a group's head. -/
  | unexpectedEnd
  /-- A group's head that means nothing. -/
  | unknownExtension (head : String)
  /-- A comment is not closed. -/
  | unterminatedComment
  /-- A group is not closed. -/
  | unterminatedGroup
  /-- A closing parenthesis too many. -/
  | unbalanced
  /-- A choice by a group has three branches. -/
  | manyBranches
  /-- Flags for the whole pattern after its beginning. -/
  | lateFlags
  /-- A flag for another kind of patterns. -/
  | localeFlag
  /-- Flags that exclude each other. -/
  | incompatibleFlags
  /-- A letter that is no flag. -/
  | unknownFlag
  /-- A flag has to stand here. -/
  | missingFlag
  /-- A flag of the whole pattern is turned on for a part. -/
  | globalFlagOn
  /-- A flag of the whole pattern is turned off for a part. -/
  | globalFlagOff
  /-- A kind of character classes is turned off. -/
  | kindOff
  /-- One flag is turned on and off. -/
  | flagOnAndOff
  /-- A look-behind without a fixed width. -/
  | variableLookbehind
  /-- A look-behind that is too wide. -/
  | wideLookbehind
  /-- A repetition where the flags refuse it. -/
  | templateRepeat (name : String)
  deriving DecidableEq, Repr

/-- The wording of a cause. -/
def Problem.message : Problem → String
  | danglingEscape => "bad escape (end of pattern)"
  | incompleteEscape escape => "incomplete escape " ++ escape
  | badEscape escape => "bad escape " ++ escape
  | octalRange escape => "octal escape value " ++ escape ++ " outside of range 0-0o377"
  | missingMark mark => "missing " ++ mark
  | missingName what => "missing " ++ what
  | unterminatedName mark => "missing " ++ mark ++ ", unterminated name"
  | undefinedCharacter name => "undefined character name " ++ Text.quote name
  | openGroup => "cannot refer to an open group"
  | lookbehindGroup => "cannot refer to group defined in the same lookbehind subpattern"
  | invalidReference number => "invalid group reference " ++ toString number
  | badGroupNumber => "bad group number"
  | badGroupName name => "bad character in group name " ++ Text.quote name
  | unknownGroup name => "unknown group name " ++ Text.quote name
  | redefinedGroup name second first =>
    "redefinition of group name " ++ Text.quote name ++ " as group " ++ toString second
      ++ "; was group " ++ toString first
  | unterminatedSet => "unterminated character set"
  | badRange first last => "bad character range " ++ first ++ "-" ++ last
  | boundsReversed => "min repeat greater than max repeat"
  | nothingToRepeat => "nothing to repeat"
  | multipleRepeat => "multiple repeat"
  | unexpectedEnd => "unexpected end of pattern"
  | unknownExtension head => "unknown extension ?" ++ head
  | unterminatedComment => "missing ), unterminated comment"
  | unterminatedGroup => "missing ), unterminated subpattern"
  | unbalanced => "unbalanced parenthesis"
  | manyBranches => "conditional backref with more than two branches"
  | lateFlags => "global flags not at the start of the expression"
  | localeFlag => "bad inline flags: cannot use 'L' flag with a str pattern"
  | incompatibleFlags => "bad inline flags: flags 'a', 'u' and 'L' are incompatible"
  | unknownFlag => "unknown flag"
  | missingFlag => "missing flag"
  | globalFlagOn => "bad inline flags: cannot turn on global flag"
  | globalFlagOff => "bad inline flags: cannot turn off global flag"
  | kindOff => "bad inline flags: cannot turn off flags 'a', 'u' and 'L'"
  | flagOnAndOff => "bad inline flags: flag turned on and off"
  | variableLookbehind => "look-behind requires fixed-width pattern"
  | wideLookbehind => "looks too much behind"
  | templateRepeat name => "internal: unsupported template operator " ++ name

/-- Why a pattern is refused. -/
inductive Fault where
  /-- A mistake in the text, at a place in it if one can be named. -/
  | malformed (problem : Problem) (position : Option Nat)
  /-- A repetition count that is out of range. -/
  | countTooLarge
  /-- A repetition count with more digits than can be read. -/
  | countUnreadable
  /-- Flags that cannot hold together for a whole pattern. -/
  | flagConflict
  deriving DecidableEq, Repr

/-- The place of a fault in words, with line and column when the pattern has several lines. -/
def placeText (source : List Char) (position : Nat) : String :=
  let before := source.take position
  let column := (before.reverse.takeWhile (· != '\n')).length + 1
  " at position " ++ toString position ++
    if source.contains '\n' then
      " (line " ++ toString (before.count '\n' + 1) ++ ", column " ++ toString column ++ ")"
    else ""

/-- The wording of a mistake in the pattern `source`. -/
def Problem.describe (problem : Problem) (position : Option Nat) (source : String) : String :=
  problem.message ++ (position.map (placeText source.toList)).getD ""

end Docbase.Pattern
