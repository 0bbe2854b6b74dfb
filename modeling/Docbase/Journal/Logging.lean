import Docbase.Journal.Record
import Docbase.Text.Case

/-!
# Logging

Where log records go. Records below a level are left out; the others are written to the console
and, if a directory is given for it, to a file. A component is known under the name of its logger,
and of several components with one logger the first one is named.
-/

namespace Docbase

/-- Where records are written. -/
inductive Outlet where
  /-- The console. -/
  | console
  /-- A file of lines of JSON. -/
  | file
  deriving DecidableEq, Repr

/-- How records are written. -/
structure Logging where
  /-- The level from which on records are written; zero leaves it open. -/
  level : Level := 0
  /-- Where they are written. -/
  outlets : List Outlet := []

/-- The level that a value stands for: a number, or a name in any case. Unknown names stand for
that of ordinary records. -/
def Level.ofValue : Value → Except Fault Level
  | .text name => .ok ((Level.names.lookup (Text.upper name)).getD Level.info)
  | value =>
    match value.asInt? with
    | some n => .ok n
    | none => .error .missingPart

namespace Logging

/-- Sets up how records are written. -/
def setUp (toFile : Bool) (level : Value) : Except Fault Logging := do
  return ⟨← Level.ofValue level, if toFile then [.console, .file] else [.console]⟩

/-- Whether records of a level are written. A level that is left open is that of warnings, and
levels that are not positive are never written. -/
def accepts (logging : Logging) (level : Level) : Bool :=
  let least := if logging.level = 0 then Level.warning else logging.level
  decide (0 < level) && decide (least ≤ level)

/-- The components that are known from the beginning. -/
def components : List String :=
  ["Schema", "Backend", "Tx", "Relations", "Registry", "Aggregate", "Store"]

/-- The component that is named for a logger, among the known ones. -/
def nameFor (known : List String) (logger : String) : Option String :=
  known.find? fun component => loggerName component = logger

/-- The place that is given for records written with a context. -/
def site : CallSite :=
  ⟨"Docbase/Journal/Logging.lean", 1, some "record"⟩

/-- The record of an entry, given the components that are known. -/
def record (known : List String) (entry : Entry) (instant : Instant) : Record :=
  let logger := loggerName entry.component
  { level := entry.level, template := entry.message, logger, site, instant,
    component := (nameFor (known ++ [entry.component]) logger).map Value.text,
    context := .object entry.context }

/-- The records that are written of entries, each naming a component that was known before it. -/
def records (logging : Logging) (instant : Instant) (known : List String) :
    List Entry → List Record
  | [] => []
  | entry :: rest =>
    let later := records logging instant (known ++ [entry.component]) rest
    if logging.accepts entry.level then record known entry instant :: later else later

end Logging

end Docbase
