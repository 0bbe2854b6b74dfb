import Docbase.Pattern.Problem
import Docbase.Pattern.Syntax
import Docbase.Pattern.Token

/-!
# The state of reading a pattern

What has been learned while a pattern is read: what is still to come, the groups that have been
opened and closed, and the flags set for the whole pattern; with the steps on it that every part
of the grammar uses.
-/

namespace Docbase.Pattern

/-- How far the reading of a pattern has come. -/
structure Progress where
  /-- The tokens still to be read. -/
  tokens : List Token
  /-- The number of characters read. -/
  position : Nat
  /-- The flags of the whole pattern. -/
  flags : Flags
  /-- The groups opened so far, in order, with their widths once they are closed. -/
  groups : List (Option Width) := []
  /-- The named groups with their numbers. -/
  names : List (String × Nat) := []
  /-- Inside a look-behind, the number of groups opened before it. -/
  lookbehind : Option Nat := none
  /-- The group numbers that choices refer to, each with the place of the first reference. -/
  choices : List (Nat × Nat) := []

/-- A step in the reading of a pattern. -/
abbrev Reading := StateT Progress (Except Fault)

namespace Reading

/-- Refuses the pattern for a fault that lies `back` characters before the place reached. -/
def refuse {α : Type} (problem : Problem) (back : Nat) : Reading α := do
  throw (.malformed problem (some ((← get).position - back)))

/-- The next token. -/
def next : Reading (Option Token) := do
  return (← get).tokens.head?

/-- Refuses a dangling escape that has come up next. -/
def settle : Reading Unit := do
  if (← next) == some .dangling then refuse .danglingEscape 0

/-- Takes the next token, if there is one. -/
def take : Reading (Option Token) := do
  let progress ← get
  match progress.tokens with
  | [] => return none
  | token :: rest =>
    set { progress with tokens := rest, position := progress.position + token.size }
    settle
    return some token

/-- Takes a given character if it comes next. -/
def accept (c : Char) : Reading Bool := do
  if (← next) == some (.plain c) then
    let _ ← take
    return true
  else return false

/-- Takes up to `most` characters of a class. -/
def takeClass (isMember : Char → Bool) : Nat → Reading (List Char)
  | 0 => return []
  | most + 1 => do
    match ← next with
    | some (.plain c) =>
      if isMember c then
        let _ ← take
        return c :: (← takeClass isMember most)
      else return []
    | _ => return []

/-- Takes the characters up to a closing mark, of which there have to be some. The first argument
bounds the number of tokens. -/
def takeName (mark : Char) (what : String) : Nat → List Char → Reading String
  | 0, _ => refuse (.missingName what) 0
  | fuel + 1, taken => do
    match ← take with
    | none =>
      if taken.isEmpty then refuse (.missingName what) 0
      else refuse (.unterminatedName (String.ofList [mark])) taken.length
    | some token =>
      if token = .plain mark then
        if taken.isEmpty then refuse (.missingName what) 1
        else return String.ofList taken
      else takeName mark what fuel (taken ++ token.chars)

/-- Takes a name up to its closing mark. -/
def name (mark : Char) (what : String) : Reading String := do
  takeName mark what ((← get).tokens.length + 1) []

/-- The number that the next group gets. -/
def nextGroup : Reading Nat := do
  return (← get).groups.length + 1

/-- Opens a group, named or not, `back` characters after its name. -/
def openGroup (name : Option String) : Reading Nat := do
  let number ← nextGroup
  match name with
  | none => pure ()
  | some name =>
    match (← get).names.lookup name with
    | some first => refuse (.redefinedGroup name number first) (name.length + 1)
    | none => modify fun progress => { progress with names := progress.names ++ [(name, number)] }
  modify fun progress => { progress with groups := progress.groups ++ [none] }
  return number

/-- The width of a closed group; an open or absent group counts as empty. -/
def Progress.groupWidth (groups : List (Option Width)) (number : Nat) : Width :=
  ((groups[number - 1]?).join).getD (0, 0)

/-- Closes a group with the pattern that it holds. -/
def closeGroup (number : Nat) (body : Regex) : Reading Unit :=
  modify fun progress =>
    let width := body.width (Progress.groupWidth progress.groups)
    { progress with groups := progress.groups.set (number - 1) (some width) }

/-- Whether a group has been closed. -/
def isClosed (number : Nat) : Reading Bool := do
  return (((← get).groups[number - 1]?).join).isSome && number != 0

/-- Refuses a reference, inside a look-behind, to a group of the same look-behind. -/
def checkLookbehind (number : Nat) : Reading Unit := do
  match (← get).lookbehind with
  | none => return ()
  | some before =>
    if !(← isClosed number) then refuse .openGroup 0
    if before < number then refuse .lookbehindGroup 0

end Reading

end Docbase.Pattern
