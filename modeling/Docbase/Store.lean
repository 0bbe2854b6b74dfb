import Docbase.Config
import Docbase.Relations
import Docbase.Storage.Transaction

/-!
# The store

Records of the resources of a schema: created, found, changed and deleted with the checks that the
schema asks for, followed along relations, counted, aggregated, and changed in transactions. Every
operation first asks for a connection, then for the resource.
-/

namespace Docbase

/-- A store: what does not change while it is used. -/
structure Store where
  /-- The registry of its schema. -/
  registry : Registry
  /-- Its settings. -/
  config : StoreConfig := { inMemory := true }

namespace Store

/-- What changes while a store is used. -/
structure State where
  /-- The backend, while there is one. -/
  backend : Option Backend := none
  /-- Whether a transaction is in flight on it. -/
  isActive : Bool := false
  /-- How many backends there have been. -/
  generation : Nat := 0
  /-- The surroundings. -/
  around : Surroundings := {}

/-- An operation on a store. -/
abbrev Operation (α : Type) := Effect State α

/-- The names under which the moment of creation is kept. -/
def createdFields : List String := ["createdAt", "created_at"]

/-- The names under which the moment of the last update is kept. -/
def updatedFields : List String := ["updatedAt", "updated_at"]

/-- Whether a field holds the identifier, which is generated and stored under `_id`. -/
def isIdentifier (field : Field) : Bool :=
  field.name == publicIdKey && field.kind = .uuid

/-- Whether a field holds a moment that is filled in. -/
def isMoment (field : Field) : Bool :=
  createdFields.contains field.name || updatedFields.contains field.name

/-- Carries out an operation on the surroundings. -/
def outside {α : Type} (effect : Effect Surroundings α) : Operation α :=
  effect.onPart State.around fun s around => { s with around }

/-- The connection to the backend of a generation. One that is gone is cleared and without
collections. -/
def State.connection (s : State) (generation : Nat) : Connection :=
  match s.backend with
  | some backend =>
    if s.generation = generation then ⟨backend, s.isActive, s.around⟩
    else ⟨{ database := "" }, false, s.around⟩
  | none => ⟨{ database := "" }, false, s.around⟩

/-- The state after something has been done on the connection to the backend of a generation. -/
def State.adopt (s : State) (generation : Nat) (c : Connection) : State :=
  if s.backend.isSome ∧ s.generation = generation then
    { s with backend := some c.backend, isActive := c.isActive, around := c.around }
  else { s with around := c.around }

/-- Carries out an operation on the backend of a generation. -/
def onGeneration {α : Type} (generation : Nat) (effect : Effect Connection α) : Operation α :=
  effect.onPart (·.connection generation) (·.adopt generation)

/-- Whether there is a connection. -/
def State.isConnected (s : State) : Bool :=
  (s.backend.map Backend.connected).getD false

/-- Fails unless there is a connection. -/
def demand : Operation Unit := do
  if !(← get).isConnected then throw .notConnected

/-- Carries out an operation on the backend, which has to be connected. -/
def onBackend {α : Type} (effect : Effect Connection α) : Operation α := do
  demand
  onGeneration (← get).generation effect

variable (store : Store)

/-- The resource of a name, once there is a connection. -/
def resource (name : String) : Operation Resource := do
  demand
  Effect.ofExcept (store.registry.get name)

/-- Writes an entry about the store into the journal. -/
def report (message : String) (context : Document) : Operation Unit :=
  outside (Surroundings.log Level.info "Store" message context)

/-- Connects, and creates a collection for every resource. -/
def connect : Operation Unit := do
  if !(← get).isConnected then
    let config := store.config.resolved
    let (database, available) := Factories.standard.make config
    if !available then
      outside (Surroundings.log Level.warning "Backend" (Factories.unavailable config.kind) [])
    modify fun s =>
      { s with backend := some { database }, isActive := false, generation := s.generation + 1 }
    let generation := (← get).generation
    onGeneration generation Connection.connect
    let names := store.registry.resourceNames
    names.forM fun name => onGeneration generation (Connection.createCollection name)
    report ("Connected to '" ++ store.config.database ++ "'")
      [("backend", .text "InMemoryBackend"), ("collections", .int names.length)]

/-- Disconnects; all records are gone. -/
def disconnect : Operation Unit := do
  let s ← get
  if s.backend.isSome then
    onGeneration s.generation Connection.disconnect
    modify fun s => { s with backend := none, isActive := false }
    report ("Disconnected from '" ++ store.config.database ++ "'") []

/-- The names of the collections. -/
def listCollections : Operation (List String) :=
  onBackend Connection.listCollections

/-- Whether a value has a part of a name: an object the key, a list the item, a text the passage.
Other values cannot be asked. -/
def mentions (data : Value) (name : String) : Except Fault Bool :=
  match data with
  | .object fields => .ok (Keyed.has fields name)
  | .list items => .ok ((Value.text name).isAmong items)
  | .text s => .ok (name = "" || 1 < (s.splitOn name).length)
  | _ => .error .wrongType

/-- The part of a name that a value mentions; only objects can give it. -/
def supplied (data : Value) (name : String) : Except Fault Value :=
  match data with
  | .object fields => .ok (Document.get fields name)
  | _ => .error .wrongType

/-- Whether a field has to be given by whoever creates a record. -/
def isDemanded (field : Field) : Bool :=
  field.isRequired && !isIdentifier field && !isMoment field

/-- Fails unless all fields are given that have to be. -/
def checkRequired (resource : Resource) (data : Value) : Except Fault Unit := do
  let missing ← (resource.fields.filter isDemanded).filterMapM fun field => do
    return if !(← mentions data field.name) && !field.hasDefault then some field.name else none
  if !missing.isEmpty then throw (.missingFields resource.name missing)

/-- The fault of a value that a field does not allow. -/
def enumFault? (resource : String) (field : Field) (values : Document) : Option Fault :=
  if field.kind = .enum ∧ Keyed.has values field.name ∧ !field.enumValues.isEmpty then
    let value := values.get field.name
    if value.isNull || value.isAmong (field.enumValues.map Value.text) then none
    else some (.disallowedValue resource field.name value field.enumValues)
  else none

/-- Fails if a value is outside the set that its field allows. -/
def checkEnums (resource : Resource) (values : Document) : Except Fault Unit :=
  match resource.fields.findSome? fun field => enumFault? resource.name field values with
  | some fault => .error fault
  | none => .ok ()

/-- Fills in a field of a new record, created at a moment. -/
def fillField (data : Value) (now : String) (doc : Document) (field : Field) :
    Effect Surroundings Document := do
  if isIdentifier field then
    return Keyed.put doc idKey (.text (← Surroundings.newId))
  else if isMoment field then return Keyed.put doc field.name (.text now)
  else if ← Effect.ofExcept (mentions data field.name) then
    return Keyed.put doc field.name (← Effect.ofExcept (supplied data field.name))
  else if !field.isRequired then return Keyed.put doc field.name .null
  else return Keyed.put doc field.name (field.default?.getD .null)

/-- Fills in the key of a relation of a new record. -/
def fillKey (data : Value) (doc : Document) (relation : Relation) : Except Fault Document := do
  let key := relation.keyField
  if ← mentions data key then return Keyed.put doc key (← supplied data key)
  else if !relation.isRequired then return Keyed.put doc key .null
  else return doc

/-- The document of a new record. -/
def buildDocument (resource : Resource) (data : Value) : Effect Surroundings Document := do
  let now ← Surroundings.readClock
  let doc ← resource.fields.foldlM (fillField data now) []
  Effect.ofExcept (resource.singles.foldlM (fillKey data) doc)

/-- Creates a record. -/
def create (name : String) (data : Value) : Operation Document := do
  let resource ← store.resource name
  Effect.ofExcept (checkRequired resource data)
  let doc ← outside (buildDocument resource data)
  Effect.ofExcept (checkEnums resource doc)
  let id ← onBackend (Connection.insertOne name (.object doc))
  return Document.formatted (Keyed.put doc idKey id)

/-- The filter of an identifier. -/
def byId (id : Value) : Value :=
  .object [(idKey, id)]

/-- The record of an identifier. -/
def findById (name : String) (id : Value) : Operation (Option Document) := do
  let _ ← store.resource name
  return (← onBackend (Connection.findOne name (byId id))).map Document.formatted

/-- What to find, still to be read. -/
structure Request where
  /-- The filter. -/
  filter : Value := .null
  /-- What to sort by. -/
  order : Value := .null
  /-- How many records to give at most. -/
  limit : Value := .null
  /-- How many records to pass over. -/
  offset : Value := .null
  /-- What related records to embed. -/
  includes : Value := .null
  /-- The fields to keep. -/
  select : Value := .null

/-- The fields to keep, with the relations that are embedded. -/
def selection (select : Value) (includes : List Include) : Except Fault (List Value) := do
  let names ← select.items
  return includes.foldl (fun names spec =>
    if (Value.text spec.head).isAmong names then names else names ++ [.text spec.head]) names

/-- Finds records: filters, sorts and pages them, embeds related records and keeps the fields asked
for. -/
def findAll (name : String) (request : Request) : Operation (List Document) := do
  let _ ← store.resource name
  let filter ← Effect.ofExcept (Filter.read request.filter)
  let order ← Effect.ofExcept (SortField.readAll request.order)
  let search : Search := { filter, order, skip := request.offset, limit := request.limit }
  let docs := (← onBackend (Connection.find name search)).map Document.formatted
  let includes ← Effect.ofExcept (Include.readAll request.includes)
  let docs ← docs.mapM fun doc =>
    onBackend (Relations.populate store.registry name doc includes)
  if request.select.isTruthy then
    let names ← Effect.ofExcept (selection request.select includes)
    Effect.ofExcept (docs.mapM fun doc => doc.project names)
  else return docs

/-- The keys that an update leaves alone. -/
def fixedKeys : List String :=
  idKey :: publicIdKey :: createdFields

/-- The changes that an update asks for, without those to fixed keys. -/
def changesOf (data : Value) : Except Fault Document :=
  match data with
  | .object fields => .ok (fields.filter fun entry => !fixedKeys.contains entry.1)
  | _ => .error .missingPart

/-- Adds the moment of the update to changes, if the resource keeps it. -/
def stamp (resource : Resource) (changes : Document) : Effect Surroundings Document := do
  match resource.fields.find? fun field => updatedFields.contains field.name with
  | some field => return Keyed.put changes field.name (.text (← Surroundings.readClock))
  | none => return changes

/-- Changes the record of an identifier. -/
def update (name : String) (id data : Value) : Operation Document := do
  let resource ← store.resource name
  match ← onBackend (Connection.findOne name (byId id)) with
  | none => throw (.unknownRecord name id)
  | some _ =>
    let changes ← Effect.ofExcept (changesOf data)
    Effect.ofExcept (checkEnums resource changes)
    let changes ← outside (stamp resource changes)
    let _ ← onBackend (Connection.updateOne name (byId id) (.object [("$set", .object changes)]))
    match ← onBackend (Connection.findOne name (byId id)) with
    | some doc => return doc.formatted
    | none => throw (.unknownRecord name id)

/-- Deletes the record of an identifier; says whether there was one. -/
def delete (name : String) (id : Value) : Operation Bool := do
  let _ ← store.resource name
  return 0 < (← onBackend (Connection.deleteOne name (byId id)))

/-- What a relation of a record leads to; null when there is no such record. -/
def getRelated (name : String) (id : Value) (relation : String) : Operation Value := do
  match ← store.findById name id with
  | none => return .null
  | some doc =>
    return (← onBackend (Relations.resolve store.registry name doc relation)).toValue

/-- The number of records that a filter selects. -/
def count (name : String) (filter : Value) : Operation Nat := do
  let _ ← store.resource name
  let _ ← Effect.ofExcept (Filter.read filter)
  onBackend (Connection.countDocuments name filter)

/-- Takes all records of a resource through a pipeline. -/
def aggregate (name : String) (pipeline : Value) : Operation (List Document) := do
  let _ ← store.resource name
  onBackend (Connection.aggregate name pipeline)

/-- Begins a transaction: the generation of the backend it is on, and the number of its session. -/
def begin : Operation (Nat × Nat) := do
  let session ← onBackend Transaction.begin
  return ((← get).generation, session)

/-- Brings a transaction to its end with the outcome of its work, on the backend that it began
on. -/
def conclude {α : Type} (token : Nat × Nat) (outcome : Except Fault α) : Operation α :=
  onGeneration token.1 (Transaction.conclude token.2 outcome)

/-- Runs a piece of work, which is given the number of its session, as a transaction. -/
def transact {α : Type} (work : Nat → Operation α) : Operation α :=
  Effect.bracket begin (fun token => work token.2) conclude

end Store

end Docbase
