import Docbase.Schema.Basic

/-!
# Schemas as values

A schema written out in full as a value, with every default filled in.
-/

namespace Docbase

/-- An optional text as a value. -/
def Value.ofText? (text : Option String) : Value :=
  (text.map Value.text).getD .null

/-- An optional double as a value. -/
def Value.ofDouble? (x : Option Double) : Value :=
  (x.map Value.double).getD .null

/-- The remarks on a field as a value. -/
def Annotations.toValue (a : Annotations) : Value :=
  .object [("enum_values", (a.enumValues.map fun v => .list (v.map Value.text)).getD .null),
    ("min", .ofDouble? a.min), ("max", .ofDouble? a.max), ("pattern", .ofText? a.pattern),
    ("primary_key", .bool a.primaryKey), ("readonly", .bool a.isReadonly),
    ("unique", .bool a.isUnique), ("indexed", .bool a.isIndexed), ("hidden", .bool a.isHidden),
    ("array_type", .ofText? (a.arrayKind.map FieldKind.name))]

/-- A field as a value. -/
def Field.toValue (field : Field) : Value :=
  .object [("name", .text field.name), ("type", .text field.kind.name),
    ("required", .bool field.isRequired), ("default", field.default?.getD .null),
    ("description", .ofText? field.description), ("annotations", field.annotations.toValue),
    ("has_default", .bool field.hasDefault),
    ("enum_values", .list (field.enumValues.map Value.text))]

/-- A relation as a value. -/
def Relation.toValue (relation : Relation) : Value :=
  .object [("name", .text relation.name), ("to", .text relation.target),
    ("cardinality", .text relation.cardinality.name),
    ("foreign_key", .ofText? relation.foreignKey), ("required", .bool relation.isRequired),
    ("inverse", .ofText? relation.inverse),
    ("on_delete", .ofText? (relation.onDelete.map OnDelete.name))]

/-- The moments that are kept, as a value. -/
def Timestamps.toValue (t : Timestamps) : Value :=
  .object [("created_at", .bool t.createdAt), ("updated_at", .bool t.updatedAt),
    ("deleted_at", .bool t.deletedAt)]

/-- A resource as a value. -/
def Resource.toValue (resource : Resource) : Value :=
  .object [("name", .text resource.name), ("plural_name", .ofText? resource.pluralName),
    ("description", .ofText? resource.description),
    ("fields", .list (resource.fields.map Field.toValue)),
    ("relations", .list (resource.relations.map Relation.toValue)),
    ("timestamps", (resource.timestamps.map Timestamps.toValue).getD .null)]

/-- A schema as a value. -/
def Schema.toValue (schema : Schema) : Value :=
  .object [("name", .text schema.name), ("version", .text schema.version),
    ("resources", .list (schema.resources.map Resource.toValue))]

end Docbase
