import Docbase.CommandLine.Command
import Docbase.CommandLine.Markup
import Docbase.CommandLine.Seed
import Docbase.Journal.Logging
import Docbase.SchemaFile

/-!
# Reports

What a command answers: a text or a table, whether it has failed, and what was noted meanwhile.
Failures of the store and of its files are told; others only have a kind.
-/

namespace Docbase.CommandLine

/-- What is put out. -/
inductive Display where
  /-- A text. -/
  | text (text : String)
  /-- A table with a title, its header first. -/
  | table (title : String) (rows : List (List String))

/-- Why a command has failed. -/
inductive Failure where
  /-- For a reason that is told. -/
  | told (message : String)
  /-- For a reason of which only the kind is known. -/
  | escaped (kind : String)

/-- Work on a command, during which entries are noted. -/
abbrev Work (α : Type) := ExceptT Failure (StateM Journal) α

/-- The kind of a failure to show markup. -/
def markupKind : String := "MarkupError"

/-- The end of a command: its exit code, what is put out, the kind of a failure that was not told,
and the log records that are written. -/
structure Report where
  /-- The exit code. -/
  exitCode : Nat
  /-- What is put out. -/
  display : Display
  /-- The kind of a failure that was not told. -/
  escaped : Option String := none
  /-- The log records that are written. -/
  records : List Record := []

/-- A text with markup as it is shown. -/
def rendered (text : String) : Except Failure String :=
  match Markup.plain? text with
  | some text => .ok text
  | none => .error (.escaped markupKind)

/-- The report of a failure. -/
def Failure.report : Failure → Report
  | escaped kind => { exitCode := 1, display := .text "", escaped := some kind }
  | told message =>
    match Markup.plain? ("[red]" ++ message ++ "[/red]") with
    | some text => { exitCode := 1, display := .text (text ++ "\n") }
    | none => { exitCode := 1, display := .text "", escaped := some markupKind }

/-- The failure of an operation of the store. -/
def Failure.ofFault (fault : Fault) : Failure :=
  match fault.message? with
  | some message => if fault.isOwn then .told message else .escaped fault.kind
  | none => .escaped fault.kind

/-- The failure to load a schema. -/
def Failure.ofLoad : LoadFault → Failure
  | .refused fault => .told fault.message
  | fault => .escaped fault.kind

/-- Loads the schema at a path. -/
def loadSchema (files : Files) (path : String) : Work Schema := do
  let schema ← (SchemaFile.load files path).mapError Failure.ofLoad
  modify (· ++ [SchemaFile.loaded schema path])
  return schema

/-- The failure to read a text as JSON, which is told after some words, unless the text is JSON with
too long a number. -/
def Failure.ofMistake (mistake : Json.Mistake) (text words : String) : Failure :=
  if mistake.problem = .tooManyDigits then .ofFault .badValue
  else .told (words ++ ": " ++ mistake.message text)

/-- The value that the text of an argument writes in JSON. -/
def readArgument (name text : String) : Except Failure Value :=
  (Json.read text).mapError fun mistake => .ofMistake mistake text ("Invalid JSON for " ++ name)

/-- The value of an argument that may be missing. -/
def readOptional (name : String) (text : Option String) : Except Failure Value :=
  match text with
  | some text => readArgument name text
  | none => .ok .null

/-- What is told first about seed records that cannot be read. -/
def seedFailure (path : String) : String :=
  "Failed to read seed data " ++ path

/-- The text of a seed file. -/
def seedText (files : Files) (path : String) : Except Failure String :=
  let missing (reason : String) : Failure :=
    .told (seedFailure path ++ ": " ++ reason ++ ": " ++ Text.quote path)
  match files.find path with
  | .file text => .ok (Files.withPlainBreaks text)
  | .nothing => .error (missing "[Errno 2] No such file or directory")
  | .blocked => .error (missing "[Errno 20] Not a directory")
  | .directory => .error (missing "[Errno 21] Is a directory")

/-- The seed records at a path; none without a path. -/
def readSeed (files : Files) (path : Option String) : Except Failure Document :=
  match path.map Files.normal with
  | none => .ok []
  | some path => do
    let text ← seedText files path
    match Json.read text with
    | .ok (.object fields) => return fields
    | .ok _ => throw (.told "Seed data must be a JSON object of resource -> records")
    | .error mistake => throw (.ofMistake mistake text (seedFailure path))

/-- Opens a store for the schema at a path. -/
def openStore (files : Files) (path : String) : Work Store := do
  let schema ← loadSchema files path
  let (registry, journal) := Registry.build schema
  modify (· ++ journal)
  return { registry, config := { inMemory := true, database := schema.name } }

/-- Works on a store with seed records, which is connected only for that. -/
def withSeed {α : Type} (store : Store) (seed : Document) (work : Store.Operation α) :
    Store.Operation α :=
  Effect.bracket store.connect (fun _ => do Seed.plant store seed; work) fun _ outcome => do
    store.disconnect
    Effect.ofExcept outcome

/-- The documents that an operation on a new store with seed records finds, as JSON. There are none
to show if a number in them is too long to be written. -/
def documentsOf (around : Surroundings) (store : Store) (seed : Document)
    (work : Store.Operation (List Document)) : Work Display := do
  let (outcome, after) :=
    (withSeed store seed work).apply { around := { around with journal := [] } }
  modify (· ++ after.around.journal)
  let docs ← outcome.mapError Failure.ofFault
  unless docs.all fun doc => Value.isWritable (.object doc) do throw (.ofFault .badValue)
  return .text (Json.pretty (.list (docs.map Value.object)) ++ "\n")

/-- The header of the table of resources. -/
def resourceHeader : List String :=
  ["Resource", "Fields", "Relations", "Inverse"]

/-- What a table shows of a list. -/
def cell (items : List String) : String :=
  if items.isEmpty then "-" else ", ".intercalate items

/-- A field in the table of resources: its name, with a question mark unless it is required, and its
kind. -/
def fieldText (field : Field) : String :=
  field.name ++ (if field.isRequired then "" else "?") ++ ": " ++ field.kind.name

/-- A relation in the table of resources. -/
def relationText (relation : Relation) : String :=
  relation.name ++ " -> " ++ relation.target
    ++ if relation.cardinality = .many then "[]" else ""

/-- A reverse relation in the table of resources. -/
def inverseText (inverse : Inverse) : String :=
  inverse.name ++ " <- " ++ inverse.source

/-- The row of a resource. -/
def resourceRow (registry : Registry) (resource : Resource) : List String :=
  [resource.name, cell (resource.fields.map fieldText), cell (resource.relations.map relationText),
    cell ((registry.inversesOf resource.name).map fun entry => inverseText entry.2)]

/-- The table of the resources of a schema. -/
def resourceTable (registry : Registry) : Except Failure Display := do
  let schema := registry.schema
  let title ← rendered ("Resources (" ++ schema.name ++ " " ++ schema.version ++ ")")
  let rows ← (schema.resources.map (resourceRow registry)).mapM (·.mapM rendered)
  return .table title (resourceHeader :: rows)

/-- What a command shows, given the files and the surroundings of the store. -/
def Command.display (files : Files) (around : Surroundings) : Command → Work Display
  | resources schema => do resourceTable (← openStore files schema).registry
  | query schema resource seed filter order limit offset includes => do
    let store ← openStore files schema
    let seed ← readSeed files seed
    let filter ← readOptional "--where" filter
    let order ← readOptional "--order-by" order
    let number := fun n : Option Int => (n.map Value.int).getD .null
    let includes := if includes.isEmpty then .null else .list (includes.map Value.text)
    documentsOf around store seed <|
      store.findAll resource
        { filter, order, limit := number limit, offset := number offset, includes }
  | aggregate schema resource pipeline seed => do
    let store ← openStore files schema
    let seed ← readSeed files seed
    let stages ← readArgument "PIPELINE" pipeline
    match stages with
    | .list _ => documentsOf around store seed (store.aggregate resource stages)
    | _ => throw (.told "Pipeline must be a JSON array of stages")

/-- The log records of a journal that are written from a level on. -/
def recordsOf (level : String) (instant : Instant) (journal : Journal) : List Record :=
  match Logging.setUp false (.text level) with
  | .ok logging => logging.records instant Logging.components journal
  | .error _ => []

/-- The report of what was asked for. -/
def Invocation.report (files : Files) (around : Surroundings) (invocation : Invocation) :
    Report :=
  let (outcome, journal) := (invocation.command.display files around).run.run []
  let report : Report := match outcome with
    | .ok display => { exitCode := 0, display }
    | .error failure => failure.report
  { report with records := recordsOf invocation.level around.now journal }

/-- The exit code for wrong arguments. -/
def usageCode : Nat := 2

/-- What there is to ask for. -/
def usageText : String :=
  "\n".intercalate
    ["Usage: [--log-level LEVEL] COMMAND",
      "  resources SCHEMA",
      "  query SCHEMA RESOURCE [-d SEED] [-w FILTER] [-o ORDER] [--limit N] [--offset N] "
        ++ "[-i RELATION]",
      "  aggregate SCHEMA RESOURCE PIPELINE [-d SEED]", ""]

/-- The report of arguments that ask for help, or for nothing that there is. -/
def Usage.report : Usage → Report
  | help => { exitCode := 0, display := .text usageText }
  | wrong => { exitCode := usageCode, display := .text "" }

/-- The report of arguments. -/
def report (files : Files) (around : Surroundings) (arguments : List String) : Report :=
  match Invocation.ofArguments arguments with
  | .ok invocation => invocation.report files around
  | .error usage => usage.report

/-! ## On a screen -/

/-- Cells side by side, each as wide as its column. -/
def lineOf (widths : List Nat) (cells : List String) : String :=
  let padded := widths.zipWith (fun width cell =>
    cell ++ String.ofList (List.replicate (width - cell.length) ' ')) cells
  " | ".intercalate padded

/-- The widths of the columns of a table. -/
def widthsOf (rows : List (List String)) : List Nat :=
  (List.range (rows.headD []).length).map fun column =>
    rows.foldl (fun width row => width.max (row[column]?.getD "").length) 0

/-- What is put out, as a text. -/
def Display.onScreen : Display → String
  | .text shown => shown
  | .table title rows =>
    let widths := widthsOf rows
    "\n".intercalate (title :: rows.map (lineOf widths)) ++ "\n"

end Docbase.CommandLine
