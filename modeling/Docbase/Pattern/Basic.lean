import Docbase.Pattern.Reader
import Docbase.Pattern.Matcher

/-!
# Compiled patterns

A pattern together with the flags in force for the whole of it. Compiling reads the text, then
fixes how far each look-behind has to go back, which it refuses to do for one without a fixed
width.
-/

namespace Docbase

/-- A compiled search pattern. -/
structure Pattern where
  /-- The text of the pattern. -/
  source : String
  /-- The flags for the whole pattern, those set in its text included. -/
  flags : Pattern.Flags
  /-- What the text was read as. -/
  tree : Pattern.Regex

namespace Pattern

/-- The name of a repetition in messages. -/
def Greed.label : Greed → String
  | greedy => "MAX_REPEAT"
  | reluctant => "MIN_REPEAT"
  | possessive => "POSSESSIVE_REPEAT"

namespace Regex

mutual

/-- Sets how far every look-behind goes back, given the widths of the groups. -/
def settle (groups : Nat → Width) (template : Bool) : Regex → Except Fault Regex
  | sequence parts => sequence <$> settleAll groups template parts
  | branches parts => branches <$> settleAll groups template parts
  | rounds least most greed body => do
    if template then throw (.malformed (.templateRepeat greed.label) none)
    return rounds least most greed (← settle groups template body)
  | group number add remove body => group number add remove <$> settle groups template body
  | atomic body => atomic <$> settle groups template body
  | look behind negated body => do
    let (lo, hi) := body.width groups
    if behind.isSome ∧ maxRounds < lo then throw (.malformed .wideLookbehind none)
    if behind.isSome ∧ lo ≠ hi then throw (.malformed .variableLookbehind none)
    return look (behind.map fun _ => lo) negated (← settle groups template body)
  | conditional number yes no => do
    return conditional number (← settle groups template yes) (← settle groups template no)
  | char code => return char code
  | otherThan code => return otherThan code
  | oneOf negated items => return oneOf negated items
  | any => return any
  | anchor condition => return anchor condition
  | again number => return again number

/-- Settles every part of a list. -/
def settleAll (groups : Nat → Width) (template : Bool) :
    List Regex → Except Fault (List Regex)
  | [] => return []
  | part :: parts => do
    return (← settle groups template part) :: (← settleAll groups template parts)

end

end Regex

/-- Compiles a pattern with flags from outside its text. -/
def compile (source : String) (flags : Flags) : Except Fault Pattern := do
  let tokens := Token.ofChars source.toList
  let start : Progress := { tokens, position := 0, flags }
  let (tree, progress) ← (Reading.whole (4 * tokens.length + 4)).run start
  let groups := Reading.Progress.groupWidth progress.groups
  return ⟨source, progress.flags, ← tree.settle groups progress.flags.template⟩

/-- Whether a pattern occurs in a text. -/
def search (pattern : Pattern) (text : String) : Bool :=
  pattern.tree.occursIn pattern.flags text

/-- Two patterns are equal when their texts and flags are. -/
instance : BEq Pattern where
  beq a b := a.source == b.source && a.flags == b.flags

/-- The letters of the flags that a pattern can be given from outside, those in force. -/
def letters (pattern : Pattern) : String :=
  let flags := pattern.flags
  let chosen := [(flags.ignoreCase, 'i'), (flags.multiline, 'm'), (flags.dotAll, 's'),
    (flags.verbose, 'x')].filter (·.1)
  String.ofList (chosen.map (·.2))

/-- The flags that letters name; other letters are passed over. -/
def Flags.ofLetters (letters : String) : Flags :=
  letters.toList.foldl (fun flags letter =>
    if letter == 'i' || letter == 'm' || letter == 's' || letter == 'x' then
      flags.union ((Flags.ofLetter? letter).getD {})
    else flags) {}

/-- The names of the flags of a pattern, as shown with it. -/
def Flags.shown (flags : Flags) : List String :=
  [(flags.template, "re.TEMPLATE"), (flags.ignoreCase, "re.IGNORECASE"),
    (flags.multiline, "re.MULTILINE"), (flags.dotAll, "re.DOTALL"), (flags.verbose, "re.VERBOSE"),
    (flags.ascii, "re.ASCII")].filterMap fun (isOn, name) => if isOn then some name else none

/-- A pattern as shown in messages; a long one is cut off. -/
def shown (pattern : Pattern) : String :=
  let body := String.ofList ((Text.quote pattern.source).toList.take 200)
  match pattern.flags.shown with
  | [] => "re.compile(" ++ body ++ ")"
  | names => "re.compile(" ++ body ++ ", " ++ "|".intercalate names ++ ")"

end Pattern

end Docbase
