import Docbase.Proofs.Agreement
import Docbase.Storage.Transaction

/-! # What the operations of a connection do

Every operation on documents works on one collection, which it brings into being if need be. For
each of them the outcome and the connection left behind are given in terms of what the same
operation does to that collection alone.
-/

namespace Docbase

namespace Backend

theorem collection_replace (b : Backend) (name other : String) (c : Collection) :
    (b.replace name c).collection other = if other = name then c else b.collection other := by
  by_cases h : other = name
  · subst h
    simp [collection, replace, Keyed.get?_put_self]
  · simp [collection, replace, Keyed.get?_put_of_ne _ _ h, h]

theorem collection_touch (b : Backend) (name other : String) :
    (b.touch name).collection other = b.collection other := by
  change (b.replace name (b.collection name)).collection other = _
  rw [collection_replace]
  split
  next h => rw [h]
  next => rfl

end Backend

namespace Collection

/-- What an update, still to be read, does to a collection: the collection changed, and how many
documents were. -/
def requested (c : Collection) (filter update : Value) : Except Fault (Collection × Nat) :=
  match changesOf update, Filter.read filter with
  | .ok changes, .ok filter => c.update filter changes
  | .ok _, .error fault => .error fault
  | .error fault, _ => .error fault

end Collection

namespace Connection

/-- The connection with another collection in the place of one. -/
def replaced (c : Connection) (name : String) (collection : Collection) : Connection :=
  { c with backend := c.backend.replace name collection }

/-- The connection with a collection brought into being. -/
def touched (c : Connection) (name : String) : Connection :=
  c.replaced name (c.backend.collection name)

/-- The connection after identifiers have been taken, up to the one of a number. -/
def numbered (c : Connection) (lastId : Nat) : Connection :=
  { c with around := { c.around with lastId } }

/-- The connection after entries have been written into the journal. -/
def noted (c : Connection) (entries : List Entry) : Connection :=
  { c with around := { c.around with journal := c.around.journal ++ entries } }

@[simp]
theorem replaced_connected (c : Connection) (name : String) (collection : Collection) :
    (c.replaced name collection).backend.connected = c.backend.connected := rfl

@[simp]
theorem replaced_registered (c : Connection) (name : String) (collection : Collection) :
    (c.replaced name collection).backend.registered = c.backend.registered := rfl

@[simp]
theorem replaced_around (c : Connection) (name : String) (collection : Collection) :
    (c.replaced name collection).around = c.around := rfl

@[simp]
theorem replaced_isActive (c : Connection) (name : String) (collection : Collection) :
    (c.replaced name collection).isActive = c.isActive := rfl

@[simp]
theorem touched_connected (c : Connection) (name : String) :
    (c.touched name).backend.connected = c.backend.connected := rfl

@[simp]
theorem touched_around (c : Connection) (name : String) :
    (c.touched name).around = c.around := rfl

@[simp]
theorem touched_collection (c : Connection) (name other : String) :
    (c.touched name).backend.collection other = c.backend.collection other :=
  Backend.collection_touch c.backend name other

@[simp]
theorem replaced_touched (c : Connection) (name : String) (collection : Collection) :
    (c.touched name).replaced name collection = c.replaced name collection := by
  simp only [touched, replaced, Backend.replace, Keyed.put_put_self]

/-! ## Parts of operations -/

theorem apply_change (c : Connection) (step : Backend → Backend) :
    (change step).apply c = (.ok (), { c with backend := step c.backend }) := rfl

theorem apply_demand (c : Connection) :
    demand.apply c = (if c.backend.connected then .ok () else .error .notConnected, c) := by
  rw [demand, Effect.apply_bind, Effect.apply_get]
  cases hc : c.backend.connected <;> simp [hc]

theorem apply_newId (c : Connection) :
    (outside Surroundings.newId).apply c =
      (.ok (Identifier.ofNat (c.around.lastId + 1)), c.numbered (c.around.lastId + 1)) := rfl

/-- Without a connection an operation that uses a collection does nothing. -/
theorem apply_use_bind_of_disconnected {α : Type} {c : Connection} (name : String)
    (next : Collection → Effect Connection α) (hc : c.backend.connected = false) :
    (use name >>= next).apply c = (.error .notConnected, c) := by
  rw [Effect.apply_bind, use, Effect.apply_bind, apply_demand, hc]
  rfl

theorem apply_use_bind {α : Type} {c : Connection} (name : String)
    (next : Collection → Effect Connection α) (hc : c.backend.connected = true) :
    (use name >>= next).apply c =
      (next (c.backend.collection name)).apply (c.touched name) := by
  have huse : (use name).apply c = (.ok (c.backend.collection name), c.touched name) := by
    rw [use, Effect.apply_bind, apply_demand, hc]
    change (Except.ok ((c.backend.touch name).collection name), c.touched name) = _
    rw [Backend.collection_touch]
  rw [Effect.apply_bind, huse]

/-! ## Operations on documents -/

section

variable {c : Connection} (hc : c.backend.connected = true) (name : String)

include hc

theorem apply_findOne (filter : Value) :
    (findOne name filter).apply c =
      ((Filter.read filter).map (c.backend.collection name).findOne, c.touched name) := by
  rw [findOne, apply_use_bind _ _ hc, Effect.apply_bind, Effect.apply_ofExcept]
  cases Filter.read filter <;> rfl

theorem apply_find (search : Search) :
    (find name search).apply c = ((c.backend.collection name).find search, c.touched name) := by
  rw [find, apply_use_bind _ _ hc, Effect.apply_ofExcept]

theorem apply_countDocuments (filter : Value) :
    (countDocuments name filter).apply c =
      ((Filter.read filter).map (c.backend.collection name).count, c.touched name) := by
  rw [countDocuments, apply_use_bind _ _ hc, Effect.apply_bind, Effect.apply_ofExcept]
  cases Filter.read filter <;> rfl

theorem apply_aggregate (pipeline : Value) :
    (aggregate name pipeline).apply c =
      (outside (Surroundings.journaled
        (Pipeline.run (c.backend.collection name).documents pipeline))).apply (c.touched name) := by
  rw [aggregate, apply_use_bind _ _ hc]

theorem apply_deleteOne (filter : Value) :
    (deleteOne name filter).apply c =
      match Filter.read filter with
      | .ok filter =>
        (.ok ((c.backend.collection name).delete filter).2,
          c.replaced name ((c.backend.collection name).delete filter).1)
      | .error fault => (.error fault, c.touched name) := by
  rw [deleteOne, apply_use_bind _ _ hc, Effect.apply_bind, Effect.apply_ofExcept]
  cases Filter.read filter with
  | error fault => rfl
  | ok filter =>
      dsimp only
      rw [Effect.apply_bind, apply_change]
      simp only [Effect.apply_pure]
      rw [← replaced_touched]
      rfl

theorem apply_updateOne (filter update : Value) :
    (updateOne name filter update).apply c =
      match (c.backend.collection name).requested filter update with
      | .ok (after, count) => (.ok count, c.replaced name after)
      | .error fault => (.error fault, c.touched name) := by
  rw [updateOne, apply_use_bind _ _ hc, Collection.requested]
  simp only [Effect.apply_bind, Effect.apply_ofExcept]
  cases Collection.changesOf update with
  | error fault => rfl
  | ok changes =>
      cases Filter.read filter with
      | error fault => rfl
      | ok filter =>
          dsimp only
          cases (c.backend.collection name).update filter changes with
          | error fault => rfl
          | ok result =>
              dsimp only
              rw [← replaced_touched]
              rfl

/-- The identifier that a document is stored under: the one it has, or else a new one. -/
def identified (c : Connection) (doc : Document) : Value × Connection :=
  if (doc.get idKey).isTruthy then (doc.get idKey, c)
  else (.text (Identifier.ofNat (c.around.lastId + 1)), c.numbered (c.around.lastId + 1))

omit hc in
theorem identified_backend (doc : Document) : (c.identified doc).2.backend = c.backend := by
  unfold identified
  split <;> rfl

omit hc in
/-- No document is stored under an identifier that counts as false. -/
theorem isTruthy_identified (c : Connection) (doc : Document) :
    (c.identified doc).1.isTruthy = true := by
  unfold identified
  split
  next hgiven => exact hgiven
  next => simp [Value.isTruthy, Identifier.ofNat, String.ext_iff]

theorem apply_insertOne_object (doc : Document) :
    (insertOne name (.object doc)).apply c =
      match (c.backend.collection name).insert (c.identified doc).1 doc with
      | .ok after => (.ok (c.identified doc).1, (c.identified doc).2.replaced name after)
      | .error fault => (.error fault, (c.identified doc).2.touched name) := by
  rw [insertOne, apply_use_bind _ _ hc]
  simp only [identified]
  split
  next hgiven =>
    simp only [Effect.apply_bind, Effect.apply_pure, Effect.apply_ofExcept]
    cases (c.backend.collection name).insert (doc.get idKey) doc with
    | error fault => rfl
    | ok after =>
        dsimp only
        rw [← replaced_touched]
        rfl
  next hgiven =>
    simp only [Effect.apply_bind, Effect.apply_map, Effect.apply_ofExcept, apply_newId,
      Except.map, touched_around]
    generalize Value.text (Identifier.ofNat (c.around.lastId + 1)) = id
    cases (c.backend.collection name).insert id doc with
    | error fault => rfl
    | ok after =>
        dsimp only
        rw [← replaced_touched]
        rfl

end

end Connection

end Docbase
