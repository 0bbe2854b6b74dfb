import Docbase.Number.Decimal
import Docbase.Text.Class

/-!
# Arguments

The arguments of a command taken apart into options with their values and other words. Options have
a long name or a short one, and every option takes a value, in the same argument or in the next
one. After two dashes there are only words.
-/

namespace Docbase.CommandLine

/-- Why a command is not carried out. -/
inductive Usage where
  /-- Help is asked for. -/
  | help
  /-- The arguments are not those of a command. -/
  | wrong
  deriving DecidableEq, Repr

/-- The names of an option. -/
structure Switch where
  /-- The long name, without its dashes. -/
  long : String
  /-- The short name, without its dash. -/
  short : Option Char := none

/-- Arguments taken apart. -/
structure Arguments where
  /-- The options by their long names, with their values, in order. -/
  options : List (String × String) := []
  /-- The other words, in order. -/
  words : List String := []
  /-- Whether help is asked for. -/
  asksHelp : Bool := false

namespace Arguments

/-- The last value of an option. -/
def value? (arguments : Arguments) (name : String) : Option String :=
  arguments.options.reverse.lookup name

/-- All values of an option. -/
def valuesOf (arguments : Arguments) (name : String) : List String :=
  (arguments.options.filter fun option => option.1 = name).map (·.2)

/-- Adds an option with its value. -/
def add (arguments : Arguments) (name value : String) : Arguments :=
  { arguments with options := arguments.options ++ [(name, value)] }

/-- What an argument begins with. -/
inductive Head where
  /-- Two dashes and nothing else. -/
  | wordsOnly
  /-- A word. -/
  | word
  /-- An option that still needs its value. -/
  | open (name : String)
  /-- An option with its value. -/
  | closed (name value : String)
  /-- The question for help. -/
  | help
  /-- No known option. -/
  | unknown

/-- The long name of the option that asks for help. -/
def helpName : String := "help"

/-- Reads an argument that begins with two dashes. -/
def longHead (switches : List Switch) (rest : List Char) : Head :=
  let name := String.ofList (rest.takeWhile (· != '='))
  let value := rest.dropWhile (· != '=')
  if name = helpName then if value.isEmpty then .help else .unknown
  else if switches.any fun switch => switch.long = name then
    if value.isEmpty then .open name else .closed name (String.ofList (value.drop 1))
  else .unknown

/-- Reads an argument. -/
def head (switches : List Switch) (argument : String) : Head :=
  match argument.toList with
  | ['-', '-'] => .wordsOnly
  | '-' :: '-' :: rest => longHead switches rest
  | '-' :: letter :: value =>
    match switches.find? fun switch => switch.short = some letter with
    | some switch =>
      if value.isEmpty then .open switch.long else .closed switch.long (String.ofList value)
    | none => .unknown
  | _ => .word

/-- Takes arguments apart. Where options come first only, the first word ends them. -/
def read (switches : List Switch) (optionsFirst : Bool) :
    Arguments → List String → Except Usage Arguments
  | done, [] => .ok done
  | done, argument :: rest =>
    match head switches argument with
    | .wordsOnly => .ok { done with words := done.words ++ rest }
    | .word =>
      if optionsFirst then .ok { done with words := done.words ++ argument :: rest }
      else read switches optionsFirst { done with words := done.words ++ [argument] } rest
    | .help => read switches optionsFirst { done with asksHelp := true } rest
    | .closed name value => read switches optionsFirst (done.add name value) rest
    | .open name =>
      match rest with
      | value :: rest => read switches optionsFirst (done.add name value) rest
      | [] => .error .wrong
    | .unknown => .error .wrong

/-- Takes arguments apart, unless they ask for help. -/
def ofList (switches : List Switch) (optionsFirst : Bool) (arguments : List String) :
    Except Usage Arguments := do
  let found ← read switches optionsFirst {} arguments
  if found.asksHelp then .error .help else .ok found

end Arguments

/-- The whole number that a text writes, with an optional sign, and blanks around it. -/
def readWhole? (text : String) : Option Int := do
  let (negative, digits) := Double.readSign (Text.trim text.toList)
  let digits ← Double.dropUnderscores? digits
  if digits.isEmpty || !digits.all Char.isDigit then none
  let n : Int := Double.readDigits digits
  return if negative then -n else n

end Docbase.CommandLine
