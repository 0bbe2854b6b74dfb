import Docbase.Clock
import Docbase.Journal
import Docbase.Journal.Template
import Docbase.Json.Printer

/-!
# Log records

A log entry with all that is known about it when it is written: when and from where it came, the
values for its message, and the failure that it tells of. A record is written as a line for people
or as a line of JSON.
-/

namespace Docbase

/-- A place in a program. -/
structure CallSite where
  /-- The file. -/
  path : String := ""
  /-- The line. -/
  line : Int := 0
  /-- The function. -/
  function : Option String := none

/-- A failure that a record tells of. -/
structure Failure where
  /-- Its kind. -/
  kind : String
  /-- What it says, unless there is no more than the kind. -/
  message : Option String

/-- A log record. -/
structure Record where
  /-- Its weight. -/
  level : Level
  /-- What it says, with places for values. -/
  template : String
  /-- The values. -/
  values : List Value := []
  /-- The name of the logger. -/
  logger : String
  /-- Where it came from. -/
  site : CallSite := {}
  /-- When it came. -/
  instant : Instant
  /-- The component that wrote it, if it is known. -/
  component : Option Value := none
  /-- What sets the component off from the rest. -/
  color : Option Value := none
  /-- Particulars. -/
  context : Value := .null
  /-- The failure that it tells of. -/
  failure : Option Failure := none

/-- The place of a record as JSON, without what is unknown or outside of any function. -/
def CallSite.toDocument (site : CallSite) : Document :=
  let named := fun text : String => if text = "" ∨ text = "<module>" then none
    else some (Value.text text)
  [("file", named site.path), ("line", if site.line = 0 then none else some (.int site.line)),
    ("function", site.function.bind named)].filterMap fun (key, value) => value.map (key, ·)

namespace Record

/-- The component that is named when none is known. -/
def defaultComponent : String := "Store"

/-- The message with its values. -/
def message (record : Record) : Except Fault String :=
  Template.fill record.template record.values

/-- The particulars by name. -/
def particulars (record : Record) : Except Fault Document :=
  if record.context.isTruthy then Document.ofValue record.context else .ok []

/-- The component, or the default one. -/
def componentValue (record : Record) : Value :=
  record.component.getD (.text defaultComponent)

/-- The failure as JSON, if it says something. -/
def failureFields (record : Record) : Document :=
  match record.failure with
  | some ⟨kind, some message⟩ =>
    [("exception", .object [("type", .text kind), ("message", .text message)])]
  | _ => []

/-- A record as a line of JSON. -/
def jsonLine (record : Record) : Except Fault String := do
  let message ← record.message
  let context ← record.particulars
  let source : Document := if record.level < Level.warning then []
    else [("source", .object record.site.toDocument)]
  return Json.compact <| .object <|
    [("timestamp", .text (Clock.text record.instant)), ("level", .text (Level.name record.level)),
      ("component", record.componentValue), ("logger", .text record.logger),
      ("message", .text message)]
    ++ (if context.isEmpty then [] else [("context", .object context)])
    ++ source ++ record.failureFields

/-- The line about a failure. -/
def Failure.line (failure : Failure) : String :=
  match failure.message with
  | none => "NoneType: None"
  | some "" => failure.kind
  | some message => failure.kind ++ ": " ++ message

/-- What a record says after its time: the component, the level unless it is that of ordinary
records, the message, the particulars and the failure. -/
def consoleText (record : Record) : Except Fault String := do
  let color := (record.color.map Value.shown).getD ""
  let level := if record.level = Level.info then [] else [Level.name record.level ++ ":"]
  let message ← record.message
  let context := (← record.particulars).map fun (key, value) => key ++ "=" ++ value.shown
  let words := (color ++ "[" ++ record.componentValue.shown ++ "]") :: level ++ message :: context
  let failure := match record.failure with
    | some failure => "\n" ++ Failure.line failure
    | none => ""
  return " ".intercalate words ++ failure

/-- A record as a line for people. -/
def consoleLine (record : Record) : Except Fault String := do
  return Clock.timeText record.instant ++ " " ++ (← record.consoleText)

end Record

end Docbase
