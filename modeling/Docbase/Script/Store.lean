import Docbase.Script.Basic
import Docbase.Store

/-!
# Scripts for a store
-/

namespace Docbase.Script

/-- A call of a store. -/
inductive StoreCall where
  /-- To connect. -/
  | connect
  /-- To disconnect. -/
  | disconnect
  /-- Whether there is a connection. -/
  | isConnected
  /-- The names of the collections. -/
  | listCollections
  /-- The names of the resources. -/
  | resources
  /-- The name of a resource, if there is one. -/
  | resource (name : String)
  /-- To create a record. -/
  | create (resource : String) (data : Value)
  /-- To find the record of an identifier. -/
  | findById (resource : String) (id : Value)
  /-- To find records. -/
  | findAll (resource : String) (request : Store.Request)
  /-- To change a record. -/
  | update (resource : String) (id data : Value)
  /-- To delete a record. -/
  | delete (resource : String) (id : Value)
  /-- To follow a relation of a record. -/
  | getRelated (resource : String) (id : Value) (relation : String)
  /-- To count records. -/
  | count (resource : String) (filter : Value)
  /-- To take all records through a pipeline. -/
  | aggregate (resource : String) (pipeline : Value)
  /-- To embed related records in a document. -/
  | populate (resource : String) (doc includes : Value)
  /-- To embed related records in each of several documents. -/
  | populateMany (resource : String) (docs includes : Value)

namespace StoreCall

/-- Embeds related records in a document on the backend, which has to be there. -/
def embed (store : Store) (resource : String) (includes : List Include) (doc : Document) :
    Store.Operation Value := do
  let s ← get
  if s.backend.isNone then throw .missingPart
  let doc ← Store.onGeneration s.generation
    (Relations.populate store.registry resource doc includes)
  return .object doc

/-- Carries out a call that changes something and answers nothing. -/
def silently (effect : Store.Operation Unit) : Store.Operation Reply := do
  effect
  return .nothing

/-- Documents as an answer. -/
def ofDocuments (docs : List Document) : Reply :=
  .value (.list (docs.map Value.object))

/-- Carries out a call. -/
def run (store : Store) : StoreCall → Store.Operation Reply
  | connect => silently store.connect
  | disconnect => silently store.disconnect
  | isConnected => return .truth (← get).isConnected
  | listCollections => return .names (← Store.listCollections)
  | resources => return .names store.registry.resourceNames
  | resource name =>
    return .value (((store.registry.find? name).map fun found => .text found.name).getD .null)
  | create name data => return .record (← store.create name data)
  | findById name id => do
    let doc ← store.findById name id
    return .value ((doc.map Value.object).getD .null)
  | findAll name request => return ofDocuments (← store.findAll name request)
  | update name id data => return .value (.object (← store.update name id data))
  | delete name id => return .truth (← store.delete name id)
  | getRelated name id relation => return .value (← store.getRelated name id relation)
  | count name filter => return .number (← store.count name filter)
  | aggregate name pipeline => return ofDocuments (← store.aggregate name pipeline)
  | populate name doc includes => do
    let doc ← Effect.ofExcept (Document.ofValue doc)
    let includes ← Effect.ofExcept (Include.readAll includes)
    return .value (← embed store name includes doc)
  | populateMany name docs includes => do
    let includes ← Effect.ofExcept (Include.readAll includes)
    let docs ← Effect.ofExcept docs.items
    if includes.isEmpty then return .value (.list docs)
    return .value (.list (← docs.mapM fun doc => do
      embed store name includes (← Effect.ofExcept (Document.ofValue doc))))

end StoreCall

/-- A store as the host of scripts. -/
def storeHost (store : Store) : Host Store.State (Nat × Nat) StoreCall where
  call := StoreCall.run store
  callSession number call := Store.outside (Surroundings.callSession number call)
  begin := Store.begin
  sessionOf := Prod.snd
  conclude := Store.conclude

end Docbase.Script
