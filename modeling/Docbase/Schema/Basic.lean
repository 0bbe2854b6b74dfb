import Docbase.Document
import Docbase.Number.Double

/-!
# Schemas

A schema names resources; a resource has fields and relations to other resources, in order.
-/

namespace Docbase

/-- The types of fields. -/
inductive FieldKind where
  /-- A short text. -/
  | string
  /-- A long text. -/
  | text
  /-- A number. -/
  | number
  /-- A whole number. -/
  | integer
  /-- A truth value. -/
  | boolean
  /-- A day. -/
  | date
  /-- A day and a time. -/
  | datetime
  /-- An identifier. -/
  | uuid
  /-- An address for mail. -/
  | email
  /-- An address on the web. -/
  | url
  /-- Any value. -/
  | json
  /-- A list. -/
  | array
  /-- One of several texts. -/
  | enum
  deriving DecidableEq, Repr

namespace FieldKind

/-- All types of fields with their names. -/
def named : List (String × FieldKind) :=
  [("string", string), ("text", text), ("number", number), ("integer", integer),
    ("boolean", boolean), ("date", date), ("datetime", datetime), ("uuid", uuid),
    ("email", email), ("url", url), ("json", json), ("array", array), ("enum", enum)]

/-- The type of a name. -/
def ofName? (name : String) : Option FieldKind :=
  named.lookup name

/-- The name of a type. -/
def name (kind : FieldKind) : String :=
  ((named.find? fun entry => entry.2 = kind).map (·.1)).getD ""

end FieldKind

/-- Remarks on a field. -/
structure Annotations where
  /-- The texts allowed, for an enumeration. -/
  enumValues : Option (List String) := none
  /-- The least value or length. -/
  min : Option Double := none
  /-- The greatest value or length. -/
  max : Option Double := none
  /-- A pattern for texts. -/
  pattern : Option String := none
  /-- Whether the field identifies the record. -/
  primaryKey : Bool := false
  /-- Whether the field is not to be written. -/
  isReadonly : Bool := false
  /-- Whether no two records agree in the field. -/
  isUnique : Bool := false
  /-- Whether the field is searched often. -/
  isIndexed : Bool := false
  /-- Whether the field is not to be shown. -/
  isHidden : Bool := false
  /-- The type of the items of a list. -/
  arrayKind : Option FieldKind := none

/-- A field of a resource. -/
structure Field where
  /-- Its name. -/
  name : String
  /-- Its type. -/
  kind : FieldKind
  /-- Whether it has to be given when a record is created. -/
  isRequired : Bool := false
  /-- The value of records that are created without it, when the schema declares one. -/
  default? : Option Value := none
  /-- What it is for. -/
  description : Option String := none
  /-- Remarks. -/
  annotations : Annotations := {}

namespace Field

/-- The texts that an enumeration allows. -/
def enumValues (field : Field) : List String :=
  field.annotations.enumValues.getD []

/-- Whether the schema declares a default, be it null. -/
def hasDefault (field : Field) : Bool :=
  field.default?.isSome

end Field

/-- How many records a relation leads to. -/
inductive Cardinality where
  /-- At most one. -/
  | one
  /-- Any number. -/
  | many
  deriving DecidableEq, Repr

namespace Cardinality

/-- The name of a cardinality. -/
def name : Cardinality → String
  | one => "one"
  | many => "many"

/-- The cardinality of a name. -/
def ofName? (name : String) : Option Cardinality :=
  [("one", one), ("many", many)].lookup name

end Cardinality

/-- What is meant to become of records whose related record is deleted. -/
inductive OnDelete where
  /-- They are deleted. -/
  | cascade
  /-- They lose the relation. -/
  | setNull
  /-- The deletion is refused. -/
  | restrict
  /-- Nothing. -/
  | noAction
  deriving DecidableEq, Repr

namespace OnDelete

/-- The name of a rule. -/
def name : OnDelete → String
  | cascade => "cascade"
  | setNull => "setNull"
  | restrict => "restrict"
  | noAction => "noAction"

/-- The rule of a name. -/
def ofName? (name : String) : Option OnDelete :=
  [("cascade", cascade), ("setNull", setNull), ("restrict", restrict),
    ("noAction", noAction)].lookup name

end OnDelete

/-- A relation of a resource to another. -/
structure Relation where
  /-- Its name. -/
  name : String
  /-- The resource it leads to. -/
  target : String
  /-- How many records it leads to. -/
  cardinality : Cardinality := .one
  /-- The field that holds the identifier of the related record, when it is named. -/
  foreignKey : Option String := none
  /-- Whether it has to be given. -/
  isRequired : Bool := false
  /-- The name of the reverse relation. -/
  inverse : Option String := none
  /-- What is meant to happen on deletion. -/
  onDelete : Option OnDelete := none

namespace Relation

/-- The name in an optional text that is not empty. -/
def nonempty? (name : Option String) : Option String :=
  name.filter (· != "")

/-- The field that holds the identifier of the related record: the one named, else the relation's
own name if it ends in `Id` or `_id`, else that name with `Id` added. -/
def keyField (relation : Relation) : String :=
  match nonempty? relation.foreignKey with
  | some key => key
  | none =>
    let name := relation.name.toList
    if "Id".toList.isSuffixOf name || "_id".toList.isSuffixOf name then relation.name
    else relation.name ++ "Id"

end Relation

/-- Which moments the records of a resource keep. -/
structure Timestamps where
  /-- That of creation. -/
  createdAt : Bool := false
  /-- That of the last update. -/
  updatedAt : Bool := false
  /-- That of deletion. -/
  deletedAt : Bool := false
  deriving DecidableEq, Repr

/-- A kind of records. -/
structure Resource where
  /-- Its name. -/
  name : String
  /-- Its name in the plural. -/
  pluralName : Option String := none
  /-- What it is for. -/
  description : Option String := none
  /-- Its fields, in order. -/
  fields : List Field := []
  /-- Its relations, in order. -/
  relations : List Relation := []
  /-- The moments it keeps. -/
  timestamps : Option Timestamps := none

/-- A schema. -/
structure Schema where
  /-- The name of the application. -/
  name : String := "app"
  /-- Its version. -/
  version : String := "0.1.0"
  /-- Its resources, in order. -/
  resources : List Resource := []

namespace Resource

/-- The first field of a name. -/
def field? (resource : Resource) (name : String) : Option Field :=
  resource.fields.find? fun field => field.name = name

/-- The relations that lead to one record, in order. -/
def singles (resource : Resource) : List Relation :=
  resource.relations.filter fun relation => relation.cardinality = .one

end Resource

namespace Schema

/-- The names of the resources, in order. -/
def resourceNames (schema : Schema) : List String :=
  schema.resources.map (·.name)

end Schema

end Docbase
