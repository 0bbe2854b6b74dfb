import Docbase.Proofs.Collection
import Docbase.Proofs.Connection
import Docbase.Script.Collection

/-! # A collection as an ordered list

A ledger is a list of documents with a place for one earlier list. It knows neither keys nor
look-ups: what a filter selects is found by going through the list. A collection answers every call
as a ledger does.
-/

namespace Docbase

open Script

/-- Documents in order, with an earlier list of them if there is one to go back to. -/
structure Ledger where
  /-- The documents. -/
  docs : List Document := []
  /-- The documents at the time of the snapshot. -/
  saved : Option (List Document) := none
  /-- The number that the last identifier was made from. -/
  lastId : Nat := 0

namespace Ledger

/-- The identifier of a new document: the one it has, or else a new one. -/
def identify (doc : Document) : Effect Ledger Value :=
  if (doc.get idKey).isTruthy then return doc.get idKey
  else do
    modify fun l => { l with lastId := l.lastId + 1 }
    return .text (Identifier.ofNat (← get).lastId)

/-- Whether a document has an identifier. -/
def carries (id : Value) (doc : Document) : Bool :=
  Value.eq (doc.get idKey) id

/-- A document with changes merged into it; the identifier stays. -/
def amended (changes doc : Document) : Document :=
  Keyed.put (Keyed.merge doc changes) idKey (doc.get idKey)

/-- Answers a call by going through the whole list. -/
def run (name : String) : CollectionCall → Effect Ledger Reply
  | .insert (.object doc) => do
    let id ← identify doc
    if (← get).docs.any (carries id) then throw (.duplicateKey name id)
    else do
      modify fun l => { l with docs := l.docs ++ [Keyed.put doc idKey id] }
      return .value id
  | .insert _ => throw .missingPart
  | .get id =>
    if id.isMutable then throw .wrongType
    else do return .value ((((← get).docs.find? (carries id)).map Value.object).getD .null)
  | .find filter order skip limit => do
    let filter ← Effect.ofExcept (Filter.read filter)
    let order ← Effect.ofExcept (SortField.readAll order)
    let docs ← Effect.ofExcept
      (paginate (sortDocuments ((← get).docs.filter filter.holds) order) skip limit)
    return .value (.list (docs.map Value.object))
  | .findOne filter => do
    let filter ← Effect.ofExcept (Filter.read filter)
    return .value ((((← get).docs.find? filter.holds).map Value.object).getD .null)
  | .update filter update => do
    let changes ← Effect.ofExcept (Collection.changesOf update)
    let filter ← Effect.ofExcept (Filter.read filter)
    if !(← get).docs.any filter.holds then return .number 0
    else do
      let changes ← Effect.ofExcept (Document.ofValue changes)
      modify fun l =>
        { l with docs := l.docs.modify (l.docs.findIdx filter.holds) (amended changes) }
      return .number 1
  | .delete filter => do
    let filter ← Effect.ofExcept (Filter.read filter)
    if !(← get).docs.any filter.holds then return .number 0
    else do
      modify fun l => { l with docs := l.docs.eraseP filter.holds }
      return .number 1
  | .count filter => do
    let filter ← Effect.ofExcept (Filter.read filter)
    return .number ((← get).docs.countP filter.holds)
  | .all => return .value (.list ((← get).docs.map Value.object))
  | .takeSnapshot => do
    modify fun l => { l with saved := some l.docs }
    return .nothing
  | .restoreSnapshot => do
    modify fun l => { l with docs := l.saved.getD l.docs, saved := none }
    return .nothing
  | .discardSnapshot => do
    modify fun l => { l with saved := none }
    return .nothing

end Ledger

namespace Collection

variable {stored : List Stored}

/-- The first entry that a filter selects stands where the first document does that it holds
of. -/
theorem Indexed.documents_replaceFirst (h : Indexed stored) (filter : Filter)
    (changes : Document) :
    (Docbase.replaceFirst (selects filter) (changed changes) stored).map (·.2) =
      (stored.map (·.2)).modify ((stored.map (·.2)).findIdx filter.holds)
        (Ledger.amended changes) := by
  have hstored := h.eq_map_entry
  generalize stored.map (·.2) = docs at hstored ⊢
  subst hstored
  have hindex : (docs.map entry).findIdx (selects filter) = docs.findIdx filter.holds := by
    rw [List.findIdx_map]
    exact congrArg (docs.findIdx ·) (funext (selects_entry filter))
  have hamend : ∀ doc, entry (Ledger.amended changes doc) = changed changes (entry doc) := by
    intro doc
    simp [entry, changed, Ledger.amended, Document.get, Keyed.get?_put_self]
  rw [replaceFirst_eq_modify, hindex, ← map_modify hamend, List.map_map]
  exact List.map_id _

theorem Indexed.documents_removeFirst (h : Indexed stored) (filter : Filter) :
    (Docbase.removeFirst (selects filter) stored).map (·.2) =
      (stored.map (·.2)).eraseP filter.holds := by
  have hstored := h.eq_map_entry
  generalize stored.map (·.2) = docs at hstored ⊢
  subst hstored
  rw [removeFirst_eq_eraseP, List.eraseP_map, List.map_map]
  refine (List.map_id _).trans ?_
  exact congrArg (docs.eraseP ·) (funext (selects_entry filter))

end Collection

namespace Ledger

/-! ## The ledger of a collection -/

/-- Stored documents under identifiers that are texts. -/
structure Tidy (stored : List Stored) : Prop extends Collection.Indexed stored where
  texts : ∀ found ∈ stored, ∃ id, found.1 = .text id

/-- No two documents are stored under the same text. -/
theorem Tidy.nodup {stored : List Stored} (h : Tidy stored) : (stored.map (·.1)).Nodup := by
  refine h.distinct.imp_of_mem ?_
  rintro id other hid - hne rfl
  obtain ⟨found, hfound, rfl⟩ := List.mem_map.mp hid
  obtain ⟨s, hs⟩ := h.texts found hfound
  rw [hs, Value.eq_text_iff.mpr rfl] at hne
  cases hne

/-- A ledger describes a collection: it lists the documents stored, now and at the time of the
snapshot, and both are stored as they should be. -/
structure Describes (l : Ledger) (c : Collection) : Prop where
  docs : c.documents = l.docs
  saved : c.snapshot.map (·.map (·.2)) = l.saved
  tidy : Tidy c.stored
  tidySaved : ∀ stored ∈ c.snapshot, Tidy stored

namespace Describes

variable {l : Ledger} {c : Collection} (h : l.Describes c)

include h

theorem matching (filter : Filter) :
    (c.matching filter).map (·.2) = l.docs.filter filter.holds := by
  rw [h.tidy.toIndexed.documents_matching, h.docs]

theorem isEmpty_matching (filter : Filter) :
    (c.matching filter).isEmpty = !l.docs.any filter.holds := by
  rw [h.tidy.toIndexed.isEmpty_matching, h.docs]

theorem stored_eq : c.stored = l.docs.map Collection.entry := by
  rw [← h.docs]
  exact h.tidy.toIndexed.eq_map_entry

theorem lookup?_eq (id : Value) :
    (c.lookup? id).map (·.2) = l.docs.find? (carries id) := by
  rw [Collection.lookup?, h.stored_eq, List.find?_map, Option.map_map]
  exact Option.map_id'

theorem insert (s : String) (doc : Document) :
    match c.insert (.text s) doc with
    | .ok after => l.docs.any (carries (.text s)) = false ∧ after.name = c.name ∧
        Describes { l with docs := l.docs ++ [Keyed.put doc idKey (.text s)] } after
    | .error fault => l.docs.any (carries (.text s)) = true ∧
        fault = .duplicateKey c.name (.text s) := by
  have hany : l.docs.any (carries (.text s)) = (c.lookup? (.text s)).isSome := by
    rw [← Option.isSome_map, h.lookup?_eq, Bool.eq_iff_iff, List.find?_isSome, List.any_eq_true]
  rw [hany]
  have hkept (after : Collection) (hafter : c.insert (.text s) doc = .ok after) :
      Collection.Indexed after.stored :=
    h.tidy.toIndexed.insert hafter
  unfold Collection.insert at hkept ⊢
  simp only [Value.isMutable, Bool.false_eq_true, ↓reduceIte] at hkept ⊢
  split at hkept
  next hused => simp [hused]
  next hfree =>
    rw [if_neg hfree]
    refine ⟨by simpa using hfree, rfl, ?_, h.saved, ⟨hkept _ rfl, ?_⟩, h.tidySaved⟩
    · simp [← h.docs, Collection.documents]
    · intro entry hentry
      rcases List.mem_append.mp hentry with hold | hnew
      · exact h.tidy.texts entry hold
      · rw [List.mem_singleton] at hnew
        exact ⟨s, by rw [hnew]⟩

theorem update (filter : Filter) (changes : Document) :
    Describes { l with docs := l.docs.modify (l.docs.findIdx filter.holds) (amended changes) }
      { c with stored :=
          replaceFirst (Collection.selects filter) (Collection.changed changes) c.stored } := by
  refine ⟨?_, h.saved, ⟨h.tidy.toIndexed.replaceFirst _ _, ?_⟩, h.tidySaved⟩
  · rw [Collection.documents, h.tidy.toIndexed.documents_replaceFirst, ← h.docs]
    rfl
  · intro found hfound
    rw [replaceFirst_eq_modify] at hfound
    rcases mem_modify hfound with hold | ⟨old, hold, rfl⟩
    · exact h.tidy.texts found hold
    · exact h.tidy.texts old hold

theorem delete (filter : Filter) :
    Describes { l with docs := l.docs.eraseP filter.holds }
      { c with stored := removeFirst (Collection.selects filter) c.stored } := by
  refine ⟨?_, h.saved, ⟨h.tidy.toIndexed.removeFirst _, ?_⟩, h.tidySaved⟩
  · rw [Collection.documents, h.tidy.toIndexed.documents_removeFirst, ← h.docs]
    rfl
  · intro found hfound
    rw [removeFirst_eq_eraseP] at hfound
    exact h.tidy.texts found (List.mem_of_mem_eraseP hfound)

theorem takeSnapshot : Describes { l with saved := some l.docs } c.takeSnapshot := by
  refine ⟨h.docs, ?_, h.tidy, ?_⟩
  · rw [← h.docs]
    rfl
  · rintro stored hstored
    cases hstored
    exact h.tidy

theorem restoreSnapshot :
    Describes { l with docs := l.saved.getD l.docs, saved := none } c.restoreSnapshot := by
  rw [← h.saved, ← h.docs]
  unfold Collection.restoreSnapshot
  split
  next stored hstored => exact ⟨by simp [Collection.documents, hstored], rfl,
      h.tidySaved stored hstored, by simp⟩
  next hnone => exact ⟨by simp [hnone], by simp [hnone], h.tidy, h.tidySaved⟩

theorem discardSnapshot : Describes { l with saved := none } c.discardSnapshot :=
  ⟨h.docs, rfl, h.tidy, by simp [Collection.discardSnapshot]⟩

end Describes

/-! ## Calls of a collection -/

/-- A ledger shows a collection of a connection: it describes the collection and has handed out as
many identifiers. -/
structure Shows (name : String) (c : Connection) (l : Ledger) : Prop where
  connected : c.backend.connected = true
  named : (c.backend.collection name).name = name
  describes : l.Describes (c.backend.collection name)
  lastId : c.around.lastId = l.lastId

/-- Whether the new document of a call, if it brings one, has a text for its identifier or
none. -/
def isPlain : CollectionCall → Bool
  | .insert (.object doc) =>
    match Document.get doc idKey with
    | .null => true
    | .text _ => true
    | _ => false
  | _ => true

section

variable {name : String} {c : Connection} {l : Ledger}

theorem Shows.touched (h : Shows name c l) : Shows name (c.touched name) l where
  connected := h.connected
  named := by rw [Connection.touched_collection, h.named]
  describes := by rw [Connection.touched_collection]; exact h.describes
  lastId := h.lastId

theorem Shows.replaced {after : Collection} {l' : Ledger} (h : Shows name c l)
    (hname : after.name = name) (hlast : l'.lastId = l.lastId) (hafter : l'.Describes after) :
    Shows name (c.replaced name after) l' where
  connected := h.connected
  named := by simpa [Connection.replaced, Backend.collection_replace] using hname
  describes := by simpa [Connection.replaced, Backend.collection_replace] using hafter
  lastId := h.lastId.trans hlast.symm

/-- A plain document is stored under a text, which the ledger and the collection agree on. -/
theorem Shows.identified (h : Shows name c l) {doc : Document}
    (hplain : isPlain (.insert (.object doc)) = true) :
    ∃ s l', (identify doc).apply l = (.ok (.text s), l') ∧ (c.identified doc).1 = .text s ∧
      (c.identified doc).2.backend = c.backend ∧ Shows name (c.identified doc).2 l' := by
  unfold identify Connection.identified
  by_cases hgiven : (doc.get idKey).isTruthy = true
  · rw [if_pos hgiven, if_pos hgiven]
    rw [isPlain] at hplain
    split at hplain
    next hnull =>
      rw [hnull] at hgiven
      cases hgiven
    next s hs => exact ⟨s, l, by rw [hs]; rfl, hs, rfl, h⟩
    next => cases hplain
  · rw [if_neg hgiven, if_neg hgiven, h.lastId]
    refine ⟨Identifier.ofNat (l.lastId + 1), { l with lastId := l.lastId + 1 }, rfl, rfl, rfl, ?_⟩
    have hd := h.describes
    exact ⟨h.connected, h.named, ⟨hd.docs, hd.saved, hd.tidy, hd.tidySaved⟩, rfl⟩

theorem insert_agrees (name : String) (doc : Value) (hplain : isPlain (.insert doc) = true) :
    Effect.Agrees (Shows name) (CollectionCall.run name (.insert doc))
      (run name (.insert doc)) := by
  intro c l h
  unfold Effect.AgreesAt CollectionCall.run BackendCall.run run
  cases doc with
  | object doc =>
      obtain ⟨s, l', hidentify, hid, hbackend, hshows⟩ := h.identified hplain
      rw [Effect.apply_bind, Effect.apply_bind, hidentify,
        Connection.apply_insertOne_object h.connected, hid, ← hbackend]
      have hinsert := hshows.describes.insert s doc
      cases hresult : ((c.identified doc).2.backend.collection name).insert (.text s) doc with
      | error fault =>
          rw [hresult] at hinsert
          obtain ⟨hused, rfl⟩ := hinsert
          simp only [Effect.apply_bind, Effect.apply_get, hused, ↓reduceIte, Effect.apply_throw]
          exact ⟨by rw [hshows.named], hshows.touched⟩
      | ok after =>
          rw [hresult] at hinsert
          obtain ⟨hfree, hname, hafter⟩ := hinsert
          simp only [Effect.apply_bind, Effect.apply_get, hfree]
          exact ⟨rfl, hshows.replaced (hname.trans hshows.named) rfl hafter⟩
  | _ =>
      rw [Effect.apply_bind, Connection.insertOne, Connection.apply_use_bind _ _ h.connected]
      exact ⟨rfl, h.touched⟩

theorem update_agrees (name : String) (filter update : Value) :
    Effect.Agrees (Shows name) (CollectionCall.run name (.update filter update))
      (run name (.update filter update)) := by
  intro c l h
  unfold Effect.AgreesAt CollectionCall.run BackendCall.run run
  simp only [Effect.apply_bind, Connection.apply_updateOne h.connected, Effect.apply_ofExcept]
  unfold Collection.requested
  cases Collection.changesOf update with
  | error fault => exact ⟨rfl, h.touched⟩
  | ok changes =>
      cases Filter.read filter with
      | error fault => exact ⟨rfl, h.touched⟩
      | ok filter =>
          simp only [Collection.update, h.describes.isEmpty_matching, Effect.apply_get]
          cases hany : l.docs.any filter.holds with
          | false => exact ⟨rfl, h.touched⟩
          | true =>
              cases hofValue : Document.ofValue changes with
              | error fault => exact ⟨rfl, h.touched⟩
              | ok changes =>
                  exact ⟨rfl, h.replaced h.named rfl (h.describes.update filter changes)⟩

theorem delete_agrees (name : String) (filter : Value) :
    Effect.Agrees (Shows name) (CollectionCall.run name (.delete filter))
      (run name (.delete filter)) := by
  intro c l h
  unfold Effect.AgreesAt CollectionCall.run BackendCall.run run
  simp only [Effect.apply_bind, Connection.apply_deleteOne h.connected, Effect.apply_ofExcept]
  cases Filter.read filter with
  | error fault => exact ⟨rfl, h.touched⟩
  | ok filter =>
      simp only [Collection.delete, h.describes.isEmpty_matching, Effect.apply_get]
      cases hany : l.docs.any filter.holds with
      | false => exact ⟨rfl, h.touched⟩
      | true => exact ⟨rfl, h.replaced h.named rfl (h.describes.delete filter)⟩

theorem find_agrees (name : String) (filter order skip limit : Value) :
    Effect.Agrees (Shows name) (CollectionCall.run name (.find filter order skip limit))
      (run name (.find filter order skip limit)) := by
  intro c l h
  unfold Effect.AgreesAt CollectionCall.run BackendCall.run run
  simp only [Effect.apply_bind, Effect.apply_ofExcept]
  cases Filter.read filter with
  | error fault => exact ⟨rfl, h⟩
  | ok filter =>
      cases SortField.readAll order with
      | error fault => exact ⟨rfl, h⟩
      | ok order =>
          simp only [Connection.apply_find h.connected, Collection.find, h.describes.matching,
            Effect.apply_get]
          cases paginate (sortDocuments (l.docs.filter filter.holds) order) skip limit <;>
            exact ⟨rfl, h.touched⟩

theorem findOne_agrees (name : String) (filter : Value) :
    Effect.Agrees (Shows name) (CollectionCall.run name (.findOne filter))
      (run name (.findOne filter)) := by
  intro c l h
  unfold Effect.AgreesAt CollectionCall.run BackendCall.run run
  simp only [Effect.apply_bind, Connection.apply_findOne h.connected, Effect.apply_ofExcept]
  cases Filter.read filter with
  | error fault => exact ⟨rfl, h.touched⟩
  | ok filter =>
      have hfirst : (c.backend.collection name).findOne filter = l.docs.find? filter.holds := by
        rw [h.describes.tidy.toIndexed.findOne_eq, h.describes.docs]
      simp only [Except.map, hfirst, Effect.apply_get]
      exact ⟨rfl, h.touched⟩

theorem count_agrees (name : String) (filter : Value) :
    Effect.Agrees (Shows name) (CollectionCall.run name (.count filter))
      (run name (.count filter)) := by
  intro c l h
  unfold Effect.AgreesAt CollectionCall.run BackendCall.run run
  simp only [Effect.apply_bind, Connection.apply_countDocuments h.connected,
    Effect.apply_ofExcept]
  cases Filter.read filter with
  | error fault => exact ⟨rfl, h.touched⟩
  | ok filter =>
      have hcount : (c.backend.collection name).count filter = l.docs.countP filter.holds := by
        rw [Collection.count, List.countP_eq_length_filter, ← h.describes.matching,
          List.length_map]
      simp only [Except.map, hcount, Effect.apply_get]
      exact ⟨rfl, h.touched⟩

theorem get_agrees (name : String) (id : Value) :
    Effect.Agrees (Shows name) (CollectionCall.run name (.get id)) (run name (.get id)) := by
  intro c l h
  unfold Effect.AgreesAt CollectionCall.run run
  simp only [Effect.apply_bind, Effect.apply_get, Effect.apply_ofExcept, Collection.get,
    h.describes.lookup?_eq]
  cases id.isMutable <;> exact ⟨rfl, h⟩

theorem all_agrees (name : String) :
    Effect.Agrees (Shows name) (CollectionCall.run name .all) (run name .all) := by
  intro c l h
  unfold Effect.AgreesAt CollectionCall.run run
  simp only [Effect.apply_bind, Effect.apply_get, h.describes.docs]
  exact ⟨rfl, h⟩

/-- A collection answers every call as the ledger that it is shown by. -/
theorem run_agrees (name : String) (call : CollectionCall) (hplain : isPlain call = true) :
    Effect.Agrees (Shows name) (CollectionCall.run name call) (run name call) := by
  cases call with
  | insert doc => exact insert_agrees name doc hplain
  | get id => exact get_agrees name id
  | find filter order skip limit => exact find_agrees name filter order skip limit
  | findOne filter => exact findOne_agrees name filter
  | update filter update => exact update_agrees name filter update
  | delete filter => exact delete_agrees name filter
  | count filter => exact count_agrees name filter
  | all => exact all_agrees name
  | takeSnapshot =>
      exact fun c l h => ⟨rfl, h.replaced h.named rfl h.describes.takeSnapshot⟩
  | restoreSnapshot =>
      intro c l h
      refine ⟨rfl, h.replaced ?_ rfl h.describes.restoreSnapshot⟩
      unfold Collection.restoreSnapshot
      split <;> exact h.named
  | discardSnapshot =>
      exact fun c l h => ⟨rfl, h.replaced h.named rfl h.describes.discardSnapshot⟩

theorem shows_ofCollection (name : String) (around : Surroundings) :
    Shows name (Script.Connection.ofCollection name around) { lastId := around.lastId } := by
  have hempty :
      (Script.Connection.ofCollection name around).backend.collection name = { name } := by
    simp [Script.Connection.ofCollection, Backend.collection, Keyed.get?]
  refine ⟨rfl, by rw [hempty], ?_, rfl⟩
  rw [hempty]
  exact ⟨rfl, rfl, ⟨Collection.Indexed.nil, by simp⟩, by simp⟩

/-! ## Going back to a snapshot -/

/-- Whether a call is about the snapshot. -/
def isAboutSnapshot : CollectionCall → Bool
  | .takeSnapshot => true
  | .restoreSnapshot => true
  | .discardSnapshot => true
  | _ => false

section

open Effect

theorem keeps_saved_identify (saved : Option (List Document)) (doc : Document) :
    Keeps (fun l => l.saved = saved) (identify doc) := by
  unfold identify
  split
  next => exact Keeps.pure _
  next =>
    exact Keeps.bind (Keeps.modify fun _ h => h) fun _ => Keeps.get.bind fun _ => Keeps.pure _

/-- Only calls about the snapshot change what there is to go back to. -/
theorem keeps_saved (saved : Option (List Document)) (name : String) (call : CollectionCall)
    (hcall : isAboutSnapshot call = false) :
    Keeps (fun l => l.saved = saved) (run name call) := by
  cases call with
  | takeSnapshot => cases hcall
  | restoreSnapshot => cases hcall
  | discardSnapshot => cases hcall
  | insert doc =>
      cases doc with
      | object doc =>
          refine (keeps_saved_identify saved doc).bind fun id => Keeps.get.bind fun l => ?_
          split
          next => exact Keeps.throw _
          next => exact Keeps.bind (Keeps.modify fun _ h => h) fun _ => Keeps.pure _
      | _ => exact Keeps.throw _
  | get id =>
      rw [run]
      split
      next => exact Keeps.throw _
      next => exact Keeps.get.bind fun _ => Keeps.pure _
  | find filter order skip limit =>
      exact (Keeps.ofExcept _).bind fun _ => (Keeps.ofExcept _).bind fun _ =>
        Keeps.get.bind fun _ => (Keeps.ofExcept _).bind fun _ => Keeps.pure _
  | findOne filter =>
      exact (Keeps.ofExcept _).bind fun _ => Keeps.get.bind fun _ => Keeps.pure _
  | update filter update =>
      refine (Keeps.ofExcept _).bind fun _ => (Keeps.ofExcept _).bind fun _ =>
        Keeps.get.bind fun _ => ?_
      split
      next => exact Keeps.pure _
      next =>
        exact Keeps.bind (Keeps.ofExcept _) fun _ => Keeps.bind (Keeps.modify fun _ h => h)
          fun _ => Keeps.pure _
  | delete filter =>
      refine (Keeps.ofExcept _).bind fun _ => Keeps.get.bind fun _ => ?_
      split
      next => exact Keeps.pure _
      next => exact Keeps.bind (Keeps.modify fun _ h => h) fun _ => Keeps.pure _
  | count filter =>
      exact (Keeps.ofExcept _).bind fun _ => Keeps.get.bind fun _ => Keeps.pure _
  | all => exact Keeps.get.bind fun _ => Keeps.pure _

/-- Some calls leave the snapshot open that was taken after the ones before. -/
def OpenSince (before calls : List CollectionCall) : Prop :=
  ∃ between, calls = before ++ .takeSnapshot :: between ∧
    ∀ call ∈ between, isAboutSnapshot call = false

/-- Some calls leave no snapshot open: none was taken, or the last has been gone back to or
dropped. -/
def NoneOpen (calls : List CollectionCall) : Prop :=
  (∀ call ∈ calls, isAboutSnapshot call = false) ∨
    ∃ before last between, calls = before ++ last :: between ∧
      (last = .restoreSnapshot ∨ last = .discardSnapshot) ∧
      ∀ call ∈ between, isAboutSnapshot call = false

variable (name : String)

/-- The ledger after some calls. -/
def after (calls : List CollectionCall) (start : Ledger) : Ledger :=
  (attemptAll (run name) calls start).2

theorem after_append (calls more : List CollectionCall) (start : Ledger) :
    after name (calls ++ more) start = after name more (after name calls start) := by
  unfold after
  rw [attemptAll_append]

theorem saved_after {calls : List CollectionCall} (start : Ledger)
    (hcalls : ∀ call ∈ calls, isAboutSnapshot call = false) :
    (after name calls start).saved = start.saved := by
  induction calls generalizing start with
  | nil => rfl
  | cons call rest ih =>
      change (after name rest ((run name call).apply start).2).saved = _
      rw [ih _ fun other hother => hcalls other (List.mem_cons_of_mem _ hother)]
      exact keeps_saved start.saved name call (hcalls call List.mem_cons_self) start rfl

theorem saved_of_openSince {before calls : List CollectionCall} (start : Ledger)
    (hopen : OpenSince before calls) :
    (after name calls start).saved = some (after name before start).docs := by
  obtain ⟨between, rfl, hbetween⟩ := hopen
  rw [after_append, ← List.singleton_append, after_append, saved_after name _ hbetween]
  rfl

theorem saved_of_noneOpen {calls : List CollectionCall} {start : Ledger}
    (hstart : start.saved = none) (hnone : NoneOpen calls) :
    (after name calls start).saved = none := by
  rcases hnone with hcalls | ⟨before, last, between, rfl, hlast, hbetween⟩
  · rw [saved_after name _ hcalls, hstart]
  · rw [after_append, ← List.singleton_append, after_append, saved_after name _ hbetween]
    rcases hlast with rfl | rfl <;> rfl

end

end

/-! ## The refinement -/

end Ledger

namespace Script.CollectionCall

open Effect

/-- The collection of a name after some calls, the first of which found it empty. -/
def collectionAfter (name : String) (around : Surroundings) (calls : List CollectionCall) :
    Collection :=
  (attemptAll (run name) calls (Connection.ofCollection name around)).2.backend.collection name

/-- What it means that calls of a collection act as those of a ledger. -/
structure ActsAsLedger (name : String) (around : Surroundings) (calls : List CollectionCall) :
    Prop where
  /-- Every call has the outcome that it has on the ledger. -/
  outcomes : (attemptAll (run name) calls (Connection.ofCollection name around)).1 =
    (attemptAll (Ledger.run name) calls { lastId := around.lastId }).1
  /-- The documents are those that the ledger lists. -/
  documents : (collectionAfter name around calls).documents =
    (Ledger.after name calls { lastId := around.lastId }).docs
  /-- Every document is stored under the identifier that it carries. -/
  carried : ∀ found ∈ (collectionAfter name around calls).stored, found.2.get idKey = found.1
  /-- No two documents are stored under the same identifier. -/
  distinct : ((collectionAfter name around calls).stored.map (·.1)).Nodup
  /-- A filter selects the documents that it holds of, whether it pins an identifier or not. -/
  scanned : ∀ filter : Filter, (collectionAfter name around calls).matching filter =
    (collectionAfter name around calls).stored.filter fun found => filter.holds found.2
  /-- Going back gives the documents that there were when the open snapshot was taken. -/
  restored : ∀ before, Ledger.OpenSince before calls →
    (collectionAfter name around (calls ++ [.restoreSnapshot])).documents =
      (collectionAfter name around before).documents
  /-- Going back without an open snapshot does nothing. -/
  unrestored : Ledger.NoneOpen calls →
    (collectionAfter name around (calls ++ [.restoreSnapshot])).documents =
      (collectionAfter name around calls).documents

theorem shows_after {name : String} (around : Surroundings) {calls : List CollectionCall}
    (hplain : ∀ call ∈ calls, Ledger.isPlain call = true) :
    (attemptAll (run name) calls (Connection.ofCollection name around)).1 =
        (attemptAll (Ledger.run name) calls { lastId := around.lastId }).1 ∧
      Ledger.Shows name (attemptAll (run name) calls (Connection.ofCollection name around)).2
        (Ledger.after name calls { lastId := around.lastId }) :=
  attemptAll_agrees (fun call hcall => Ledger.run_agrees name call (hplain call hcall))
    (Ledger.shows_ofCollection name around)

theorem documents_after {name : String} (around : Surroundings) {calls : List CollectionCall}
    (hplain : ∀ call ∈ calls, Ledger.isPlain call = true) :
    (collectionAfter name around calls).documents =
      (Ledger.after name calls { lastId := around.lastId }).docs :=
  (shows_after around hplain).2.describes.docs

theorem documents_after_restore {name : String} (around : Surroundings)
    {calls : List CollectionCall} (hplain : ∀ call ∈ calls, Ledger.isPlain call = true) :
    (collectionAfter name around (calls ++ [.restoreSnapshot])).documents =
      ((Ledger.after name calls { lastId := around.lastId }).saved).getD
        (Ledger.after name calls { lastId := around.lastId }).docs := by
  have hall : ∀ call ∈ calls ++ [.restoreSnapshot], Ledger.isPlain call = true := by
    intro call hcall
    rcases List.mem_append.mp hcall with hold | hlast
    · exact hplain call hold
    · rw [List.mem_singleton] at hlast
      rw [hlast]
      rfl
  rw [documents_after around hall, Ledger.after_append]
  rfl

/-- A collection is an ordered list of documents with a place for one snapshot: any calls from an
empty collection act as on a ledger. -/
theorem acts_as_ledger (name : String) (around : Surroundings) (calls : List CollectionCall)
    (hplain : ∀ call ∈ calls, Ledger.isPlain call = true) : ActsAsLedger name around calls := by
  obtain ⟨houtcomes, hshows⟩ := @shows_after name around calls hplain
  have htidy := hshows.describes.tidy
  refine ⟨houtcomes, hshows.describes.docs, htidy.carried, htidy.nodup,
    htidy.toIndexed.matching_eq, ?_, ?_⟩
  · intro before hopen
    have hbefore : ∀ call ∈ before, Ledger.isPlain call = true := by
      obtain ⟨between, rfl, -⟩ := hopen
      exact fun call hcall => hplain call (List.mem_append_left _ hcall)
    rw [documents_after_restore around hplain, Ledger.saved_of_openSince name _ hopen,
      documents_after around hbefore]
    rfl
  · intro hnone
    rw [documents_after_restore around hplain, Ledger.saved_of_noneOpen name rfl hnone,
      documents_after around hplain]
    rfl

/-- An update and a deletion that pin an identifier, the update by an operator that there is not
and with changes to the identifier, undone by going back. -/
theorem acts_as_ledger_undone :
    (∀ call ∈ [insert (.object [("_id", .text "a"), ("n", .int 1)]), insert (.object []),
        takeSnapshot,
        update (.object [("_id", .object [("$is", .text "a")])])
          (.object [("$set", .object [("_id", .text "b"), ("n", .int 2)])]),
        delete (.object [("_id", .object [("$not", .text "a")])]), restoreSnapshot],
      Ledger.isPlain call = true) ∧
    ActsAsLedger "Deal" {}
      [insert (.object [("_id", .text "a"), ("n", .int 1)]), insert (.object []), takeSnapshot,
        update (.object [("_id", .object [("$is", .text "a")])])
          (.object [("$set", .object [("_id", .text "b"), ("n", .int 2)])]),
        delete (.object [("_id", .object [("$not", .text "a")])]), restoreSnapshot] :=
  ⟨by decide, acts_as_ledger "Deal" {} _ (by decide)⟩

end Script.CollectionCall

end Docbase
