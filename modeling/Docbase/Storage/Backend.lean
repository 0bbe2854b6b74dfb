import Docbase.Query.Aggregation
import Docbase.Storage.Collection
import Docbase.Storage.Surroundings

/-!
# Backends

A backend holds collections by name. A collection comes into being when it is first used, but only
those created on purpose are listed. A snapshot covers all collections at once; going back to it
drops the collections that have come into being since.
-/

namespace Docbase

/-- The collections of a database. -/
structure Backend where
  /-- The name of the database. -/
  database : String
  /-- Whether there is a connection. -/
  connected : Bool := false
  /-- The collections, in the order in which they came into being. -/
  collections : Keyed Collection := []
  /-- The names of the collections created on purpose. -/
  registered : List String := []
  /-- The names of the collections that a snapshot covers, while there is one. -/
  snapshotNames : Option (List String) := none

/-- A backend with its surroundings, and whether a transaction is in flight on it. -/
structure Connection where
  /-- The backend. -/
  backend : Backend
  /-- Whether a transaction is in flight. -/
  isActive : Bool := false
  /-- The surroundings. -/
  around : Surroundings := {}

namespace Backend

/-- The collection of a name, empty if it has not come into being. -/
def collection (b : Backend) (name : String) : Collection :=
  (Keyed.get? b.collections name).getD { name }

/-- Brings a collection into being. -/
def touch (b : Backend) (name : String) : Backend :=
  { b with collections := Keyed.put b.collections name (b.collection name) }

/-- Puts a collection in place of the one of the same name. -/
def replace (b : Backend) (name : String) (c : Collection) : Backend :=
  { b with collections := Keyed.put b.collections name c }

/-- Creates a collection on purpose. -/
def create (b : Backend) (name : String) : Backend :=
  let b := b.touch name
  if name ∈ b.registered then b else { b with registered := b.registered ++ [name] }

/-- Drops everything, and the connection. -/
def cleared (b : Backend) : Backend :=
  { b with connected := false, collections := [], registered := [], snapshotNames := none }

/-- Takes a snapshot of every collection. -/
def takeSnapshot (b : Backend) : Backend :=
  { b with
    collections := b.collections.map fun (name, c) => (name, c.takeSnapshot)
    snapshotNames := some (Keyed.keys b.collections) }

/-- Goes back to the snapshot; without one, nothing happens. -/
def restoreSnapshot (b : Backend) : Backend :=
  match b.snapshotNames with
  | none => b
  | some names =>
    let dropped := fun name : String => Keyed.has b.collections name && !names.contains name
    { b with
      collections := (b.collections.filter fun entry => names.contains entry.1).map
        fun (name, c) => (name, c.restoreSnapshot)
      registered := b.registered.filter fun name => !dropped name
      snapshotNames := none }

/-- Drops the snapshot. -/
def discardSnapshot (b : Backend) : Backend :=
  { b with
    collections := b.collections.map fun (name, c) => (name, c.discardSnapshot)
    snapshotNames := none }

end Backend

namespace Connection

/-- Carries out an operation on the surroundings. -/
def outside {α : Type} (effect : Effect Surroundings α) : Effect Connection α :=
  effect.onPart Connection.around fun c around => { c with around }

/-- Changes the backend. -/
def change (step : Backend → Backend) : Effect Connection Unit :=
  modify fun c => { c with backend := step c.backend }

/-- Fails unless there is a connection. -/
def demand : Effect Connection Unit := do
  if !(← get).backend.connected then throw .notConnected

/-- Writes a note about the backend into the journal. -/
def note (message : String) : Effect Connection Unit :=
  outside (Surroundings.log Level.debug "Backend" message [])

/-- Connects. -/
def connect : Effect Connection Unit := do
  let backend := (← get).backend
  if !backend.connected then
    change fun b => { b with connected := true }
    note ("Connected in-memory backend '" ++ backend.database ++ "'")

/-- Disconnects and drops everything. -/
def disconnect : Effect Connection Unit := do
  let backend := (← get).backend
  change Backend.cleared
  if backend.connected then
    note ("Disconnected in-memory backend '" ++ backend.database ++ "'")

/-- Creates a collection on purpose. -/
def createCollection (name : String) : Effect Connection Unit := do
  demand
  change (·.create name)

/-- The names of the collections created on purpose. -/
def listCollections : Effect Connection (List String) := do
  demand
  return (← get).backend.registered

/-- The collection of a name, which comes into being if need be. -/
def use (name : String) : Effect Connection Collection := do
  demand
  change (·.touch name)
  return (← get).backend.collection name

/-- Stores a document, which gets an identifier if it has none. -/
def insertOne (name : String) (doc : Value) : Effect Connection Value := do
  let c ← use name
  match doc with
  | .object fields =>
    let given := Document.get fields idKey
    let id ← if given.isTruthy then pure given
      else Value.text <$> outside Surroundings.newId
    change (·.replace name (← Effect.ofExcept (c.insert id fields)))
    return id
  | _ => throw .missingPart

/-- The first document that a filter selects. -/
def findOne (name : String) (filter : Value) : Effect Connection (Option Document) := do
  let c ← use name
  return c.findOne (← Effect.ofExcept (Filter.read filter))

/-- The documents that a search finds. -/
def find (name : String) (search : Search) : Effect Connection (List Document) := do
  let c ← use name
  Effect.ofExcept (c.find search)

/-- Changes the first document that a filter selects. -/
def updateOne (name : String) (filter update : Value) : Effect Connection Nat := do
  let c ← use name
  let changes ← Effect.ofExcept (Collection.changesOf update)
  let filter ← Effect.ofExcept (Filter.read filter)
  let (c, count) ← Effect.ofExcept (c.update filter changes)
  change (·.replace name c)
  return count

/-- Removes the first document that a filter selects. -/
def deleteOne (name : String) (filter : Value) : Effect Connection Nat := do
  let c ← use name
  let (c, count) := c.delete (← Effect.ofExcept (Filter.read filter))
  change (·.replace name c)
  return count

/-- The number of documents that a filter selects. -/
def countDocuments (name : String) (filter : Value) : Effect Connection Nat := do
  let c ← use name
  return c.count (← Effect.ofExcept (Filter.read filter))

/-- Takes all documents of a collection through a pipeline. -/
def aggregate (name : String) (pipeline : Value) : Effect Connection (List Document) := do
  let c ← use name
  outside (Surroundings.journaled (Pipeline.run c.documents pipeline))

/-- Opens a session and gives its number. -/
def startSession : Effect Connection Nat := do
  demand
  outside Surroundings.openSession

/-- Takes a snapshot of every collection. -/
def takeSnapshot : Effect Connection Unit := do
  demand
  change Backend.takeSnapshot

/-- Goes back to the snapshot. -/
def restoreSnapshot : Effect Connection Unit := do
  if (← get).backend.snapshotNames.isSome then
    change Backend.restoreSnapshot
    note "Restored collection snapshots"

/-- Drops the snapshot. -/
def discardSnapshot : Effect Connection Unit :=
  change Backend.discardSnapshot

end Connection

end Docbase
