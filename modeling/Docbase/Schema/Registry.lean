import Docbase.Inflection
import Docbase.Journal
import Docbase.Schema.Basic

/-!
# The registry of a schema

Look-ups of resources and relations, the reverse relations that relations to one imply for their
targets, and the junctions through which relations to many are resolved.
-/

namespace Docbase

/-- The reverse of a relation to one, as the target sees it. -/
structure Inverse where
  /-- Its name. -/
  name : String
  /-- The resource that declares the relation. -/
  source : String
  /-- The relation. -/
  relation : Relation

namespace Inverse

/-- The field of the source that holds the identifier of the target. -/
def keyField (inverse : Inverse) : String :=
  inverse.relation.keyField

end Inverse

/-- The way from a resource to another through a third one that refers to both. -/
structure Junction where
  /-- The resource that refers to both. -/
  junction : String
  /-- The resource at the other end. -/
  target : String
  /-- The field of the junction that refers to this end. -/
  localKey : String
  /-- The field of the junction that refers to the other end. -/
  foreignKey : String

/-- The reverse relation's name when none is declared: the plural of the source in small letters. -/
def defaultInverseName (source : String) : String :=
  Text.lower (Inflection.plural (Text.lower source))

/-- The reverse relation's name: the declared one if it is not empty. -/
def inverseName (source : String) (relation : Relation) : String :=
  (Relation.nonempty? relation.inverse).getD (defaultInverseName source)

/-- The reverse relations of every target, under their names. -/
abbrev InverseIndex := Keyed (Keyed Inverse)

namespace InverseIndex

/-- The reverse relations of a resource. -/
def of (index : InverseIndex) (target : String) : Keyed Inverse :=
  (Keyed.get? index target).getD []

/-- Enters the reverse of a relation; an earlier one of the same name gives way. -/
def enter (index : InverseIndex) (source : String) (relation : Relation) : InverseIndex :=
  let name := inverseName source relation
  Keyed.put index relation.target
    (Keyed.put (index.of relation.target) name ⟨name, source, relation⟩)

/-- Whether entering a relation makes an earlier one give way. -/
def redefines (index : InverseIndex) (source : String) (relation : Relation) : Bool :=
  Keyed.has (index.of relation.target) (inverseName source relation)

/-- The journal entry about a relation that makes an earlier one give way. -/
def notice (source : String) (relation : Relation) : Entry :=
  ⟨Level.debug, "Registry", "Inverse relation " ++ relation.target ++ "."
    ++ inverseName source relation ++ " redefined by " ++ source ++ "." ++ relation.name, []⟩

/-- The relations to one of all resources in schema order, each with its source. -/
def relationsOf (schema : Schema) : List (String × Relation) :=
  schema.resources.flatMap fun resource =>
    resource.singles.map fun relation => (resource.name, relation)

/-- Enters relations in turn, noting those that make an earlier one give way. -/
def build : List (String × Relation) → InverseIndex → Journal → InverseIndex × Journal
  | [], index, journal => (index, journal)
  | (source, relation) :: rest, index, journal =>
    let journal := if index.redefines source relation then journal ++ [notice source relation]
      else journal
    build rest (index.enter source relation) journal

end InverseIndex

/-- A schema with its index of reverse relations. -/
structure Registry where
  /-- The schema. -/
  schema : Schema
  /-- The reverse relations. -/
  inverses : InverseIndex

namespace Registry

/-- The registry of a schema, and what was noted while it was built. -/
def build (schema : Schema) : Registry × Journal :=
  let (inverses, journal) := InverseIndex.build (InverseIndex.relationsOf schema) [] []
  (⟨schema, inverses⟩, journal)

/-- The registry of a schema. -/
def ofSchema (schema : Schema) : Registry :=
  (build schema).1

/-- The names of the resources, in order. -/
def resourceNames (registry : Registry) : List String :=
  registry.schema.resourceNames

/-- The resource of a name. -/
def find? (registry : Registry) (name : String) : Option Resource :=
  registry.schema.resources.find? fun resource => resource.name = name

/-- Whether there is a resource of a name. -/
def has (registry : Registry) (name : String) : Bool :=
  (registry.find? name).isSome

/-- The resource of a name, which has to be there. -/
def get (registry : Registry) (name : String) : Except Fault Resource :=
  match registry.find? name with
  | some resource => .ok resource
  | none => .error (.unknownResource name)

/-- The relations that a resource declares, under their names. -/
def relations (registry : Registry) (resource : String) : Keyed Relation :=
  match registry.find? resource with
  | some resource => Keyed.ofList (resource.relations.map fun relation => (relation.name, relation))
  | none => []

/-- A relation that a resource declares. -/
def relation? (registry : Registry) (resource name : String) : Option Relation :=
  Keyed.get? (registry.relations resource) name

/-- The reverse relations of a resource. -/
def inversesOf (registry : Registry) (resource : String) : Keyed Inverse :=
  registry.inverses.of resource

/-- A reverse relation of a resource. -/
def inverse? (registry : Registry) (resource name : String) : Option Inverse :=
  Keyed.get? (registry.inversesOf resource) name

/-- The field of a junction that refers to one of its sides: that of its first relation to one
that leads there, else one named after the side. -/
def junctionKey (registry : Registry) (junction side : String) : String :=
  let leadsThere := fun relation : Relation =>
    decide (relation.cardinality = .one) && relation.target == side
  match (registry.relations junction).find? fun entry => leadsThere entry.2 with
  | some (_, relation) => relation.keyField
  | none => Inflection.uncapitalized side ++ "Id"

/-- The resource that a relation to many leads to: the declared one, else the one named by the
singular of the relation. -/
def manyTarget (registry : Registry) (resource name : String) : String :=
  match registry.relation? resource name with
  | some relation =>
    if relation.cardinality = .many then relation.target
    else Inflection.capitalized (Inflection.singularRelation name)
  | none => Inflection.capitalized (Inflection.singularRelation name)

/-- The junction of a relation to many: the resource named by both ends in either order. -/
def junction? (registry : Registry) (resource name : String) : Option Junction :=
  let target := registry.manyTarget resource name
  if registry.has target then
    ([resource ++ target, target ++ resource].find? registry.has).map fun junction =>
      ⟨junction, target, registry.junctionKey junction resource,
        registry.junctionKey junction target⟩
  else none

end Registry

end Docbase
