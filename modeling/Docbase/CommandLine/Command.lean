import Docbase.CommandLine.Arguments
import Docbase.Value.Basic

/-!
# Commands

What can be asked for on the command line: a survey of the resources of a schema, a query, and an
aggregation.
-/

namespace Docbase.CommandLine

/-- A command. -/
inductive Command where
  /-- To show the resources of a schema. -/
  | resources (schema : String)
  /-- To find records of a resource among seed records. -/
  | query (schema resource : String) (seed filter order : Option String)
    (limit offset : Option Int) (includes : List String)
  /-- To take the seed records of a resource through a pipeline. -/
  | aggregate (schema resource pipeline : String) (seed : Option String)

namespace Command

/-- The option for the level from which on log records are written. -/
def levelSwitch : Switch := ⟨"log-level", none⟩

/-- The option for seed records. -/
def seedSwitch : Switch := ⟨"data", some 'd'⟩

/-- The options of a query. -/
def querySwitches : List Switch :=
  [seedSwitch, ⟨"where", some 'w'⟩, ⟨"order-by", some 'o'⟩, ⟨"limit", none⟩, ⟨"offset", none⟩,
    ⟨"include", some 'i'⟩]

/-- The value of an option that has to be a whole number. -/
def wholeOption (arguments : Arguments) (name : String) : Except Usage (Option Int) :=
  match arguments.value? name with
  | none => .ok none
  | some text =>
    match readWhole? text with
    | some n => .ok (some n)
    | none => .error .wrong

/-- Reads the arguments of a survey. -/
def readResources (arguments : List String) : Except Usage Command := do
  match (← Arguments.ofList [] false arguments).words with
  | [schema] => return .resources schema
  | _ => throw .wrong

/-- Reads the arguments of a query. -/
def readQuery (arguments : List String) : Except Usage Command := do
  let found ← Arguments.ofList querySwitches false arguments
  let limit ← wholeOption found "limit"
  let offset ← wholeOption found "offset"
  match found.words with
  | [schema, resource] =>
    return .query schema resource (found.value? "data") (found.value? "where")
      (found.value? "order-by") limit offset (found.valuesOf "include")
  | _ => throw .wrong

/-- Reads the arguments of an aggregation. -/
def readAggregate (arguments : List String) : Except Usage Command := do
  let found ← Arguments.ofList [seedSwitch] false arguments
  match found.words with
  | [schema, resource, pipeline] =>
    return .aggregate schema resource pipeline (found.value? "data")
  | _ => throw .wrong

/-- The command with a name and arguments of its own. -/
def ofWords : List String → Except Usage Command
  | "resources" :: rest => readResources rest
  | "query" :: rest => readQuery rest
  | "aggregate" :: rest => readAggregate rest
  | _ => .error .wrong

/-- The paths of the files that a command needs. -/
def paths : Command → List String
  | resources schema => [schema]
  | query schema _ seed _ _ _ _ _ => schema :: seed.toList
  | aggregate schema _ _ seed => schema :: seed.toList

end Command

/-- What arguments ask for: a command, and the level from which on log records are written. -/
structure Invocation where
  /-- The name or number of the level. -/
  level : String
  /-- The command. -/
  command : Command

namespace Invocation

/-- The level from which on log records are written unless another one is asked for. -/
def defaultLevel : String := "WARNING"

/-- Reads arguments: options, and then a command. -/
def ofArguments (arguments : List String) : Except Usage Invocation := do
  let found ← Arguments.ofList [Command.levelSwitch] true arguments
  let command ← Command.ofWords found.words
  return ⟨(found.value? Command.levelSwitch.long).getD defaultLevel, command⟩

end Invocation

end Docbase.CommandLine
