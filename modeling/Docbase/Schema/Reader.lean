import Docbase.Schema.Basic
import Docbase.Validation

/-!
# Reading schemas

A schema is read from an object; its resources may be given as a list or under their names. No two
resources have one name, and every relation leads to a resource of the schema.
-/

namespace Docbase

/-- Why a schema is refused. -/
inductive SchemaFault where
  /-- It is not an object. -/
  | notObject (typeName : String)
  /-- A resource given under its name is not an object. -/
  | resourceNotObject (name : String)
  /-- Its parts are not what they should be. -/
  | invalid (violations : List Violation)
  /-- There is no file. -/
  | fileMissing (path : String)
  /-- The file holds nothing. -/
  | fileEmpty (path : String)
  /-- The file cannot be read, for a reason that may be told. -/
  | fileMalformed (path : String) (reason : Option String)

/-- The wording of a schema fault. -/
def SchemaFault.message : SchemaFault → String
  | notObject typeName => "Schema must be a mapping, got " ++ typeName
  | resourceNotObject name => "Resource '" ++ name ++ "' must be a mapping"
  | invalid _ => "Invalid schema"
  | fileMissing path => "Schema file not found: " ++ path
  | fileEmpty path => "Empty schema file: " ++ path
  | fileMalformed path none => "Invalid schema file " ++ path
  | fileMalformed path (some reason) => "Invalid schema file " ++ path ++ ": " ++ reason

section

open Validated

/-- Reads the remarks on a field. -/
def Annotations.read (fields : Document) : Validated Annotations :=
  .ok Annotations.mk
    |> plus (part fields ["enumValues", "enum_values"] none (optional (list text)))
    |> plus (part fields ["min"] none (optional number))
    |> plus (part fields ["max"] none (optional number))
    |> plus (part fields ["pattern"] none (optional text))
    |> plus (part fields ["primaryKey", "primary_key"] false bool)
    |> plus (part fields ["readonly"] false bool)
    |> plus (part fields ["unique"] false bool)
    |> plus (part fields ["indexed"] false bool)
    |> plus (part fields ["hidden"] false bool)
    |> plus (part fields ["arrayType", "array_type"] none
      (optional (choice FieldKind.ofName?)))

/-- Reads a field. -/
def Field.read (fields : Document) : Validated Field :=
  .ok Field.mk
    |> plus (required fields "name" text)
    |> plus (required fields "type" (choice FieldKind.ofName?))
    |> plus (part fields ["required"] false bool)
    |> plus (.ok (Keyed.get? fields "default"))
    |> plus (part fields ["description"] none (optional text))
    |> plus (part fields ["annotations"] {} (record Annotations.read))

/-- Reads a relation. -/
def Relation.read (fields : Document) : Validated Relation :=
  .ok Relation.mk
    |> plus (required fields "name" text)
    |> plus (required fields "to" text)
    |> plus (part fields ["cardinality"] .one (choice Cardinality.ofName?))
    |> plus (part fields ["foreignKey", "foreign_key"] none (optional text))
    |> plus (part fields ["required"] false bool)
    |> plus (part fields ["inverse"] none (optional text))
    |> plus (part fields ["onDelete", "on_delete"] none (optional (choice OnDelete.ofName?)))

/-- Reads which moments are kept. -/
def Timestamps.read (fields : Document) : Validated Timestamps :=
  .ok Timestamps.mk
    |> plus (part fields ["createdAt", "created_at"] false bool)
    |> plus (part fields ["updatedAt", "updated_at"] false bool)
    |> plus (part fields ["deletedAt", "deleted_at"] false bool)

/-- Reads a resource. -/
def Resource.read (fields : Document) : Validated Resource :=
  .ok Resource.mk
    |> plus (required fields "name" text)
    |> plus (part fields ["pluralName", "plural_name"] none (optional text))
    |> plus (part fields ["description"] none (optional text))
    |> plus (part fields ["fields"] [] (list (record Field.read)))
    |> plus (part fields ["relations"] [] (list (record Relation.read)))
    |> plus (part fields ["timestamps"] none (optional (record Timestamps.read)))

end

namespace Schema

/-- The first resource name that comes a second time. -/
def repeatedName? : List String → List Resource → Option String
  | _, [] => none
  | seen, resource :: rest =>
    if resource.name ∈ seen then some resource.name
    else repeatedName? (resource.name :: seen) rest

/-- The first relation whose target is not among some names, with its resource. -/
def strayRelation? (names : List String) (resources : List Resource) :
    Option (String × Relation) :=
  resources.findSome? fun resource =>
    (resource.relations.find? fun relation => relation.target ∉ names).map fun relation =>
      (resource.name, relation)

/-- Refuses resources of which two have one name. -/
def distinct (resources : List Resource) : Validated (List Resource) :=
  match repeatedName? [] resources with
  | some name => Validated.refuse (.rule ("Value error, Duplicate resource name '" ++ name ++ "'"))
  | none => .ok resources

/-- Refuses a schema with a relation that leads nowhere. -/
def closed (schema : Schema) : Validated Schema :=
  match strayRelation? schema.resourceNames schema.resources with
  | some (name, relation) =>
    Validated.refuse (.rule ("Value error, Relation '" ++ name ++ "." ++ relation.name
      ++ "' targets unknown resource '" ++ relation.target ++ "'"))
  | none => .ok schema

/-- Reads the list of resources. -/
def readResources (value : Value) : Validated (List Resource) := do
  distinct (← Validated.list (Validated.record Resource.read) value)

/-- Reads a schema whose resources are given as a list. -/
def read (fields : Document) : Validated Schema := do
  let parts : Validated Schema := .ok Schema.mk
    |> Validated.plus (Validated.part fields ["name"] "app" Validated.text)
    |> Validated.plus (Validated.part fields ["version"] "0.1.0" Validated.text)
    |> Validated.plus (Validated.part fields ["resources"] [] readResources)
  closed (← parts)

/-- A resource given under a name: its body with the name in front, unless the body has its own.
A body of null is empty. -/
def named (name body : Value) : Except SchemaFault Value :=
  match body with
  | .null => .ok (.object [("name", name)])
  | .object fields => .ok (.object (Keyed.merge [("name", name)] fields))
  | _ => .error (.resourceNotObject name.shown)

/-- Resources given under their names, as a list. -/
def listed (entries : List (Value × Value)) : Except SchemaFault (List Value) :=
  entries.mapM fun (name, body) => named name body

/-- The object of a schema with its resources as a list. -/
def normalize (fields : Document) : Except SchemaFault Document :=
  match Keyed.get? fields "resources" with
  | some (.object entries) => do
    let resources ← listed (entries.map fun (name, body) => (.text name, body))
    return Keyed.put fields "resources" (.list resources)
  | _ => .ok fields

/-- Reads a schema. -/
def ofValue : Value → Except SchemaFault Schema
  | .object fields => do
    let fields ← normalize fields
    (read fields).mapError .invalid
  | value => .error (.notObject value.typeName)

end Schema

end Docbase
