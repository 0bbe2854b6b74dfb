import Docbase.Files
import Docbase.Journal
import Docbase.Json.Reader
import Docbase.Schema.Reader
import Docbase.Yaml.Reader

/-!
# Schemas from files

A schema file is written in JSON if the suffix of its name says so, and in YAML otherwise. In YAML
the names of resources may be of any type, and only texts are accepted.
-/

namespace Docbase

/-- Why a schema cannot be loaded. -/
inductive LoadFault where
  /-- The file or the schema in it is refused. -/
  | refused (fault : SchemaFault)
  /-- The path leads to a directory. -/
  | directory
  /-- A scalar in the file does not write what it should. -/
  | scalar (trouble : Yaml.Trouble)

/-- The kind of a fault, as callers see it. -/
def LoadFault.kind : LoadFault → String
  | refused _ => "SchemaError"
  | directory => "IsADirectoryError"
  | scalar trouble => trouble.kind

namespace SchemaFile

/-- The suffix of files that are written in JSON. -/
def jsonSuffix : String := ".json"

/-- The value that a JSON file holds. -/
def readJson (path content : String) : Except LoadFault Value :=
  match Json.read content with
  | .ok value => .ok value
  | .error mistake =>
    .error (.refused (.fileMalformed path (some (mistake.message content))))

/-- The datum that a YAML file holds. -/
def readYaml (path content : String) : Except LoadFault Yaml.Datum :=
  match Yaml.read content with
  | .ok datum => .ok datum
  | .error .malformed => .error (.refused (.fileMalformed path none))
  | .error trouble => .error (.scalar trouble)

/-- The schema that a datum describes. -/
def schemaOf (datum : Yaml.Datum) : Except SchemaFault Schema :=
  match datum with
  | .table entries =>
    match entries.lookup (.text "resources") with
    | some (.table resources) => do
      let named := resources.map fun (name, body) => (name, body.toValue)
      let fields := Keyed.ofList (Yaml.Datum.toFields entries)
      let listed ← Schema.listed named
      Schema.ofValue (.object (Keyed.put fields "resources" (.list listed)))
    | _ => Schema.ofValue datum.toValue
  | _ => Schema.ofValue datum.toValue

/-- Loads the schema at a path. -/
def load (files : Files) (path : String) : Except LoadFault Schema := do
  let path := Files.normal path
  let content ← match files.find path with
    | .nothing => throw (.refused (.fileMissing path))
    | .blocked => throw (.refused (.fileMissing path))
    | .directory => throw .directory
    | .file text => pure (Files.withPlainBreaks text)
  if Text.lower (Files.suffix path) = jsonSuffix then
    let value ← readJson path content
    if !value.isTruthy then throw (.refused (.fileEmpty path))
    (Schema.ofValue value).mapError .refused
  else
    let datum ← readYaml path content
    if !datum.toValue.isTruthy then throw (.refused (.fileEmpty path))
    (schemaOf datum).mapError .refused

/-- The component that loads schemas. -/
def component : String := "Schema"

/-- The note that a schema has been loaded. -/
def loaded (schema : Schema) (path : String) : Entry where
  level := .debug
  component := component
  message := "Loaded schema '" ++ schema.name ++ "' with " ++ toString schema.resources.length
    ++ " resources from " ++ Files.normal path

end SchemaFile

end Docbase
