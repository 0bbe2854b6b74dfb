import Docbase.Store

/-!
# Seed records

Records that a store is filled with at the beginning, given under the names of their resources. An
`id` in a record is an alias: where a key of a later record refers to the alias, it is replaced by
the identifier that the record was given.
-/

namespace Docbase.Seed

/-- The identifiers of the records so far, under their aliases. -/
abbrev Aliases := Keyed Value

/-- The keys by which records of a resource refer to others. -/
def keysOf (resource : Resource) : List String :=
  resource.singles.map Relation.keyField

/-- A record with identifiers in the place of aliases. -/
def resolve (aliases : Aliases) (keys : List String) (values : Document) : Document :=
  values.map fun (key, value) =>
    match value with
    | .text name =>
      (key, if keys.contains key then (Keyed.get? aliases name).getD value else value)
    | _ => (key, value)

/-- Creates a record, and notes its alias if it has one. -/
def plantRecord (store : Store) (resource : Resource) (aliases : Aliases) (record : Value) :
    Store.Operation Aliases := do
  let given ← Effect.ofExcept (Document.ofValue record)
  let values := Keyed.remove (Keyed.remove given publicIdKey) idKey
  let created ← store.create resource.name (.object (resolve aliases (keysOf resource) values))
  let name := Document.get given publicIdKey
  if name.isNull then return aliases
  else return Keyed.put aliases name.shown (Document.get created idKey)

/-- Creates the records of a resource. -/
def plantResource (store : Store) (aliases : Aliases) (entry : String × Value) :
    Store.Operation Aliases := do
  let resource ← Effect.ofExcept (store.registry.get entry.1)
  let records ← Effect.ofExcept entry.2.items
  records.foldlM (plantRecord store resource) aliases

/-- Creates all seed records in order. -/
def plant (store : Store) (seed : Document) : Store.Operation Unit := do
  let _ ← seed.foldlM (plantResource store) []
  return ()

end Docbase.Seed
