import Docbase.Query.FilterReader
import Docbase.Query.Paging
import Docbase.Query.Sorting

/-!
# Collections

The documents of one resource in the order of insertion, each stored under its identifier, and at
most one snapshot of them. A filter that pins an identifier is answered by looking it up; any
other by going through all documents.
-/

namespace Docbase

/-- A document with the identifier it is stored under. -/
abbrev Stored := Value × Document

/-- The documents of a resource. -/
structure Collection where
  /-- The name of the collection. -/
  name : String
  /-- The documents, in order of insertion. -/
  stored : List Stored := []
  /-- The documents as they were when a snapshot was taken. -/
  snapshot : Option (List Stored) := none

/-- What to find: a filter, an order and a page. -/
structure Search where
  /-- The filter. -/
  filter : Filter := []
  /-- The fields to sort by. -/
  order : List SortField := []
  /-- How many documents to pass over. -/
  skip : Value := .null
  /-- How many documents to give at most. -/
  limit : Value := .null

/-- Replaces the first item of a list that passes a test. -/
def replaceFirst {α : Type} (test : α → Bool) (new : α → α) : List α → List α
  | [] => []
  | item :: rest => if test item then new item :: rest else item :: replaceFirst test new rest

/-- Removes the first item of a list that passes a test. -/
def removeFirst {α : Type} (test : α → Bool) : List α → List α
  | [] => []
  | item :: rest => if test item then rest else item :: removeFirst test rest

namespace Collection

/-- The number of documents. -/
def size (c : Collection) : Nat :=
  c.stored.length

/-- The document stored under an identifier. -/
def lookup? (c : Collection) (id : Value) : Option Stored :=
  c.stored.find? fun entry => Value.eq entry.1 id

/-- Whether an entry is one that a filter selects. Under a pinned identifier only the entry of
that identifier is looked at. -/
def selects (filter : Filter) (entry : Stored) : Bool :=
  match filter.pinned? with
  | some id => Value.eq entry.1 (.text id) && filter.holds entry.2
  | none => filter.holds entry.2

/-- The documents that a filter selects, in order. -/
def matching (c : Collection) (filter : Filter) : List Stored :=
  match filter.pinned? with
  | some id => (c.lookup? (.text id)).toList.filter fun entry => filter.holds entry.2
  | none => c.stored.filter fun entry => filter.holds entry.2

/-- All documents, in order. -/
def documents (c : Collection) : List Document :=
  c.stored.map (·.2)

/-- Whether there is a snapshot. -/
def hasSnapshot (c : Collection) : Bool :=
  c.snapshot.isSome

/-- Takes a snapshot in place of any earlier one. -/
def takeSnapshot (c : Collection) : Collection :=
  { c with snapshot := some c.stored }

/-- Goes back to the snapshot and drops it; without one, nothing happens. -/
def restoreSnapshot (c : Collection) : Collection :=
  match c.snapshot with
  | some stored => { c with stored, snapshot := none }
  | none => c

/-- Drops the snapshot. -/
def discardSnapshot (c : Collection) : Collection :=
  { c with snapshot := none }

/-- Stores a document at the end under an identifier that is free. -/
def insert (c : Collection) (id : Value) (doc : Document) : Except Fault Collection :=
  if id.isMutable then .error .wrongType
  else if (c.lookup? id).isSome then .error (.duplicateKey c.name id)
  else .ok { c with stored := c.stored ++ [(id, Keyed.put doc idKey id)] }

/-- The document of an identifier. -/
def get (c : Collection) (id : Value) : Except Fault (Option Document) :=
  if id.isMutable then .error .wrongType
  else .ok ((c.lookup? id).map (·.2))

/-- The first document that a filter selects. -/
def findOne (c : Collection) (filter : Filter) : Option Document :=
  (c.matching filter).head?.map (·.2)

/-- The documents that a search finds. -/
def find (c : Collection) (search : Search) : Except Fault (List Document) :=
  paginate (sortDocuments ((c.matching search.filter).map (·.2)) search.order) search.skip
    search.limit

/-- The number of documents that a filter selects. -/
def count (c : Collection) (filter : Filter) : Nat :=
  (c.matching filter).length

/-- The changes that an update stands for: those under `$set`, or all of it. -/
def changesOf (update : Value) : Except Fault Value :=
  match update with
  | .object fields => .ok ((Keyed.get? fields "$set").getD update)
  | .list items => if (Value.text "$set").isAmong items then .error .wrongType else .ok update
  | .text s => if 1 < (s.splitOn "$set").length then .error .wrongType else .ok update
  | _ => .error .wrongType

/-- An entry with changes merged into its document; the identifier stays. -/
def changed (changes : Document) (entry : Stored) : Stored :=
  (entry.1, Keyed.put (Keyed.merge entry.2 changes) idKey entry.1)

/-- Changes the first document that a filter selects; says how many were changed. -/
def update (c : Collection) (filter : Filter) (changes : Value) :
    Except Fault (Collection × Nat) := do
  if (c.matching filter).isEmpty then return (c, 0)
  let changes ← Document.ofValue changes
  return ({ c with stored := replaceFirst (selects filter) (changed changes) c.stored }, 1)

/-- Removes the first document that a filter selects; says how many were removed. -/
def delete (c : Collection) (filter : Filter) : Collection × Nat :=
  if (c.matching filter).isEmpty then (c, 0)
  else ({ c with stored := removeFirst (selects filter) c.stored }, 1)

end Collection

end Docbase
