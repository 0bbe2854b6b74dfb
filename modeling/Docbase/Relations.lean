import Docbase.Query.Include
import Docbase.Schema.Registry
import Docbase.Storage.Backend

/-!
# Related documents

A relation of a document is resolved in one of three ways: a declared relation to one through the
identifier that the document holds, a reverse relation by searching its source, and a relation to
many through a junction. Only relations named on the way of an include are followed, so that the
way bounds how deep documents are embedded.
-/

namespace Docbase

/-- What a relation of a document leads to. -/
inductive Related where
  /-- At most one document. -/
  | one (doc : Option Document)
  /-- Any number of documents. -/
  | many (docs : List Document)

namespace Related

/-- Related documents as a value. -/
def toValue : Related → Value
  | one none => .null
  | one (some doc) => .object doc
  | many docs => .list (docs.map Value.object)

/-- Related documents with the given fields only; all fields when none are given. -/
def project (related : Related) (select : Option (List Value)) : Except Fault Related :=
  match select, related with
  | none, related => .ok related
  | some _, one none => .ok (one none)
  | some names, one (some doc) => do return one (some (← doc.project names))
  | some names, many docs => do return many (← docs.mapM fun doc => doc.project names)

end Related

namespace Relations

/-- The document of an identifier, as callers see it. -/
def findById (resource : String) (id : Value) : Effect Connection (Option Document) := do
  return (← Connection.findOne resource (.object [(idKey, id)])).map Document.formatted

/-- The documents whose field equals a value, as callers see them. -/
def findWhere (resource field : String) (value : Value) : Effect Connection (List Document) := do
  let filter ← Effect.ofExcept (Filter.read (.object [(field, value)]))
  return (← Connection.find resource { filter }).map Document.formatted

/-- The documents of the identifiers held under a key by rows; rows without one, or whose document
is absent, give none. -/
def targets (resource key : String) : List Document → Effect Connection (List Document)
  | [] => return []
  | row :: rest => do
    let id := row.get key
    let found ← if id.isTruthy then findById resource id else pure none
    return found.toList ++ (← targets resource key rest)

/-- Resolves a relation of a document: the resource it leads to, and the documents. -/
def load? (registry : Registry) (resource : String) (doc : Document) (name : String) :
    Effect Connection (Option (String × Related)) := do
  let declared := (registry.relation? resource name).filter (·.cardinality = .one)
  match declared, registry.inverse? resource name, registry.junction? resource name with
  | some relation, _, _ =>
    let id := doc.get relation.keyField
    let found ← if id.isTruthy then findById relation.target id else pure none
    return some (relation.target, .one found)
  | none, some inverse, _ =>
    return some (inverse.source,
      .many (← findWhere inverse.source inverse.keyField doc.identifier))
  | none, none, some junction =>
    let rows ← findWhere junction.junction junction.localKey doc.identifier
    return some (junction.target, .many (← targets junction.target junction.foreignKey rows))
  | none, none, none => return none

/-- Notes that a way is not followed. -/
def noteSkipped (path resource : String) : Effect Connection Unit :=
  Connection.outside (Surroundings.log Level.debug "Relations"
    ("Skipping unknown include '" ++ path ++ "' on " ++ resource) [])

/-- Embeds the documents at the end of a way into a document, which need not be one that was
stored. What is already embedded under the first name of a longer way is kept and gone on
from. -/
def embed (registry : Registry) (select : Option (List Value)) :
    List String → String → Document → Effect Connection Document
  | [], _, doc => return doc
  | [name], resource, doc => do
    match ← load? registry resource doc name with
    | none =>
      noteSkipped name resource
      return doc
    | some (_, related) =>
      return Keyed.put doc name (← Effect.ofExcept (related.project select)).toValue
  | name :: next :: more, resource, doc => do
    match ← load? registry resource doc name with
    | none =>
      noteSkipped (Include.join (name :: next :: more)) resource
      return doc
    | some (target, related) =>
      let present := if (doc.get name).isNull then related.toValue else doc.get name
      let descend := fun item : Value => do
        let inner ← Effect.ofExcept (Document.ofValue item)
        return Value.object (← embed registry select (next :: more) target inner)
      match present with
      | .null => return Keyed.put doc name .null
      | .list items => return Keyed.put doc name (.list (← items.mapM descend))
      | item => return Keyed.put doc name (← descend item)

/-- Embeds what several includes ask for, one after the other. -/
def populate (registry : Registry) (resource : String) (doc : Document)
    (includes : List Include) : Effect Connection Document :=
  includes.foldlM (fun doc spec => embed registry spec.select spec.segments resource doc) doc

/-- Resolves a relation of a document, which has to be there. -/
def resolve (registry : Registry) (resource : String) (doc : Document) (name : String) :
    Effect Connection Related := do
  match ← load? registry resource doc name with
  | some (_, related) => return related
  | none => throw (.unknownRelation resource name)

end Relations

end Docbase
