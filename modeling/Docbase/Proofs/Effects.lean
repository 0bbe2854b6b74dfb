import Docbase.Proofs.Atomicity
import Docbase.Proofs.Ledger
import Docbase.Proofs.Lookup
import Mathlib.Logic.Function.Basic

/-! # What calls of a store do to its records

The records of a store are, for every name, a list of documents. A record that is created goes to
the end of one list, one that is updated is replaced where it stands, and one that is deleted
leaves the others as they are. Nothing else that is asked of a store changes a list, and neither
does anything that fails.
-/

namespace Docbase

open Effect Script

namespace Ledger

theorem get_idKey_amended (changes doc : Document) :
    (amended changes doc).get idKey = doc.get idKey := by
  simp [amended, Document.get, Keyed.get?_put_self]

/-- A filter on the identifier alone does not see that a document has been changed. -/
theorem holds_amended (conditions : List Condition) (changes doc : Document) :
    Filter.holds [.field idKey conditions] (amended changes doc) =
      Filter.holds [.field idKey conditions] doc := by
  rw [Filter.holds_single, Filter.holds_single, get_idKey_amended]

end Ledger

/-! ## Documents of a connection -/

namespace Connection

variable {records : String → List Document} {c : Connection}

namespace Shows

theorem of_backend {d : Connection} (h : c.Shows records) (hbackend : d.backend = c.backend) :
    d.Shows records := by
  refine ⟨?_, fun name => ?_⟩
  · rw [hbackend]
    exact h.ready
  · rw [hbackend]
    exact h.documents name

theorem rewritten (h : c.Shows records) (name : String) {stored : List Stored}
    (hrevision : Collection.Revision (c.backend.collection name).stored stored) :
    (c.rewritten name stored).Shows (Function.update records name (stored.map (·.2))) := by
  refine ⟨Backend.ready_durable.rewritten c h.ready name stored hrevision, fun other => ?_⟩
  rw [Connection.rewritten, replaced, Backend.collection_replace]
  by_cases hother : other = name
  · subst hother
    simp [Collection.documents]
  · simp [hother, h.documents]

end Shows

/-- An identifier counts as true, and is the one that a document has if that does. -/
def Identifies (doc : Document) (id : Value) : Prop :=
  id.isTruthy = true ∧ ((doc.get idKey).isTruthy = true → id = doc.get idKey)

theorem identifies_identified (c : Connection) (doc : Document) :
    Identifies doc (c.identified doc).1 := by
  refine ⟨c.isTruthy_identified doc, fun hgiven => ?_⟩
  rw [identified, if_pos hgiven]

/-- A document is stored at the end, or not at all. -/
theorem insertOne_cases (h : c.Shows records) (name : String) (doc : Document) :
    (∃ fault, ((insertOne name (.object doc)).apply c).1 = .error fault ∧
      ((insertOne name (.object doc)).apply c).2.Shows records) ∨
    ∃ id, ((insertOne name (.object doc)).apply c).1 = .ok id ∧ Identifies doc id ∧
      ((insertOne name (.object doc)).apply c).2.Shows
        (Function.update records name (records name ++ [Keyed.put doc idKey id])) := by
  rw [apply_insertOne_object h.ready.connected]
  have hidentified : (c.identified doc).2.Shows records :=
    h.of_backend (c.identified_backend doc)
  have hidentifies := c.identifies_identified doc
  rw [← c.identified_backend doc]
  generalize c.identified doc = identified at *
  obtain ⟨id, d⟩ := identified
  dsimp only at *
  cases hinsert : (d.backend.collection name).insert id doc with
  | error fault => exact .inl ⟨fault, rfl, hidentified.touched name⟩
  | ok after =>
      refine .inr ⟨id, rfl, hidentifies, ?_⟩
      have hdocs : after.stored.map (·.2) = records name ++ [Keyed.put doc idKey id] := by
        obtain ⟨-, -, rfl⟩ := Collection.insert_eq_ok.mp hinsert
        rw [← hidentified.documents name]
        simp [Collection.documents]
      have hrewritten := hidentified.rewritten name (.inserted hidentifies.1 hinsert)
      rw [hdocs] at hrewritten
      dsimp only
      rw [Collection.eq_of_insert hinsert]
      exact hrewritten

section

variable {value : Value} {filter : Filter} (h : c.Shows records)
  (hread : Filter.read value = .ok filter)

include h

theorem isEmpty_matching (name : String) (filter : Filter) :
    ((c.backend.collection name).matching filter).isEmpty =
      !(records name).any filter.holds := by
  rw [(h.indexed name).isEmpty_matching, h.documents]

include hread

/-- The first document that a filter holds of is changed where it stands. -/
theorem updateOne_shows (name : String) (changes : Document)
    (hany : (records name).any filter.holds = true) :
    ((updateOne name value (.object [("$set", .object changes)])).apply c).1 = .ok 1 ∧
      ((updateOne name value (.object [("$set", .object changes)])).apply c).2.Shows
        (Function.update records name
          (replaceFirst filter.holds (Ledger.amended changes) (records name))) := by
  have hsome : ((c.backend.collection name).matching filter).isEmpty = false := by
    rw [isEmpty_matching h, hany]
    rfl
  have hupdate : (c.backend.collection name).requested value
      (.object [("$set", .object changes)]) =
        .ok ({ c.backend.collection name with
          stored := replaceFirst (Collection.selects filter) (Collection.changed changes)
            (c.backend.collection name).stored }, 1) := by
    simp only [Collection.requested, Collection.changesOf, hread, Collection.update, hsome]
    rfl
  have hdocuments : (replaceFirst (Collection.selects filter) (Collection.changed changes)
      (c.backend.collection name).stored).map (·.2) =
        replaceFirst filter.holds (Ledger.amended changes) (records name) := by
    rw [(h.indexed name).documents_replaceFirst, ← replaceFirst_eq_modify, ← h.documents]
    rfl
  have hrewritten := h.rewritten name (.changed _ (Collection.selects filter) changes)
  rw [hdocuments] at hrewritten
  rw [apply_updateOne h.ready.connected, hupdate]
  exact ⟨rfl, hrewritten⟩

/-- The first document that a filter holds of is removed, if there is one. -/
theorem deleteOne_shows (name : String) :
    ((deleteOne name value).apply c).1 =
        .ok (if (records name).any filter.holds then 1 else 0) ∧
      ((deleteOne name value).apply c).2.Shows
        (Function.update records name ((records name).eraseP filter.holds)) := by
  have hempty := isEmpty_matching h name filter
  have hdocuments : ((c.backend.collection name).delete filter).1.stored.map (·.2) =
      (records name).eraseP filter.holds := by
    unfold Collection.delete
    rw [hempty]
    split
    next hnone =>
      change (c.backend.collection name).documents = _
      rw [h.documents, List.eraseP_of_forall_not]
      simpa using hnone
    next =>
      rw [(h.indexed name).documents_removeFirst]
      change (c.backend.collection name).documents.eraseP _ = _
      rw [h.documents]
  have hcount : ((c.backend.collection name).delete filter).2 =
      if (records name).any filter.holds then 1 else 0 := by
    unfold Collection.delete
    rw [hempty]
    cases (records name).any filter.holds <;> rfl
  have hrewritten := h.rewritten name
    (Collection.revision_delete (c.backend.collection name) filter)
  rw [hdocuments] at hrewritten
  rw [apply_deleteOne h.ready.connected, hread]
  refine ⟨congrArg Except.ok hcount, ?_⟩
  dsimp only
  rw [Collection.delete_fst]
  exact hrewritten

end

end Connection

/-! ## Records of a store -/

namespace Store

variable {records : String → List Document} {s : State}

/-- An operation has failed and has left the records as they were, or it has given a value, and
something can be said of the value and of the records afterwards. -/
def Ends {α : Type} (records : String → List Document)
    (success : α → (String → List Document) → Prop) (result : Except Fault α × State) : Prop :=
  (∃ fault, result.1 = .error fault ∧ result.2.Shows records) ∨
    ∃ value records', result.1 = .ok value ∧ result.2.Shows records' ∧ success value records'

section

variable {α β : Type} {success : β → (String → List Document) → Prop} {effect : Operation α}
  {next : α → Operation β}

theorem Ends.bind (hkept : (effect.apply s).2.Shows records)
    (hnext : ∀ value, (effect.apply s).1 = .ok value →
      Ends records success ((next value).apply (effect.apply s).2)) :
    Ends records success ((effect >>= next).apply s) := by
  rw [apply_bind]
  rcases hrun : effect.apply s with ⟨result, after⟩
  rw [hrun] at hkept hnext
  cases result with
  | error fault => exact .inl ⟨fault, rfl, hkept⟩
  | ok value => exact hnext value rfl

/-- What only looks at the state and may fail is passed over. -/
theorem Ends.bind_of_apply_eq {outcome : Except Fault α} (h : s.Shows records)
    (heffect : effect.apply s = (outcome, s))
    (hnext : ∀ value, outcome = .ok value → Ends records success ((next value).apply s)) :
    Ends records success ((effect >>= next).apply s) := by
  refine Ends.bind ?_ fun value hvalue => ?_
  · rw [heffect]
    exact h
  · rw [heffect] at hvalue ⊢
    exact hnext value hvalue

theorem Ends.imp {success' : β → (String → List Document) → Prop}
    {result : Except Fault β × State} (h : Ends records success result)
    (himp : ∀ value records', success value records' → success' value records') :
    Ends records success' result := by
  obtain hfailed | ⟨value, records', hok, hafter, hsuccess⟩ := h
  · exact .inl hfailed
  · exact .inr ⟨value, records', hok, hafter, himp value records' hsuccess⟩

theorem Ends.of_error {result : Except Fault β × State} (h : Ends records success result)
    {fault : Fault} (hfault : result.1 = .error fault) : result.2.Shows records := by
  obtain ⟨_, -, hkept⟩ | ⟨_, _, hok, -⟩ := h
  · exact hkept
  · rw [hfault] at hok
    cases hok

theorem Ends.of_ok {result : Except Fault β × State} (h : Ends records success result)
    {value : β} (hvalue : result.1 = .ok value) :
    ∃ records', result.2.Shows records' ∧ success value records' := by
  obtain ⟨_, hfault, -⟩ | ⟨_, records', hok, hafter, hsuccess⟩ := h
  · rw [hvalue] at hfault
    cases hfault
  · rw [hvalue] at hok
    cases hok
    exact ⟨records', hafter, hsuccess⟩

/-- What is made of a value does not matter to whether the operation fails. -/
theorem Ends.of_error_bind_pure {effect : Operation β} {f : β → α}
    (h : Ends records success (effect.apply s)) {fault : Fault}
    (hfault : ((effect >>= fun value => pure (f value)).apply s).1 = .error fault) :
    ((effect >>= fun value => pure (f value)).apply s).2.Shows records := by
  rw [bind_pure_comp, apply_map] at hfault ⊢
  cases hresult : (effect.apply s).1 with
  | error fault => exact h.of_error hresult
  | ok value => rw [hresult] at hfault; cases hfault

end

theorem read_byId_text (id : String) :
    Filter.read (byId (.text id)) = .ok (Filter.equating idKey (.text id)) :=
  Filter.read_equating Filter.ofKey?_idKey rfl

/-- The document of a new record, as it is before it has an identifier. -/
def Builds (store : Store) (around : Surroundings) (name : String) (data : Value)
    (built : Document) : Prop :=
  ∃ resource, store.registry.get name = .ok resource ∧
    ((buildDocument resource data).apply around).1 = .ok built

/-- The changes that an update makes to a record. -/
def Changes (store : Store) (around : Surroundings) (name : String) (data : Value)
    (changes : Document) : Prop :=
  ∃ resource asked, store.registry.get name = .ok resource ∧ changesOf data = .ok asked ∧
    ((stamp resource asked).apply around).1 = .ok changes

/-- The document of a new record that the resource does not refuse. -/
def Stores (store : Store) (around : Surroundings) (name : String) (data : Value)
    (built : Document) : Prop :=
  ∃ resource, store.registry.get name = .ok resource ∧
    ((buildDocument resource data).apply around).1 = .ok built ∧
    checkEnums resource built = .ok ()

/-- The changes that an update makes to a record, which the resource does not refuse. -/
def Amends (store : Store) (around : Surroundings) (name : String) (data : Value)
    (changes : Document) : Prop :=
  ∃ resource asked, store.registry.get name = .ok resource ∧ changesOf data = .ok asked ∧
    checkEnums resource asked = .ok () ∧ ((stamp resource asked).apply around).1 = .ok changes

theorem Stores.builds {store : Store} {around : Surroundings} {name : String} {data : Value}
    {built : Document} (h : store.Stores around name data built) :
    store.Builds around name data built := by
  obtain ⟨resource, hresource, hbuilt, -⟩ := h
  exact ⟨resource, hresource, hbuilt⟩

theorem Amends.changes {store : Store} {around : Surroundings} {name : String} {data : Value}
    {changes : Document} (h : store.Amends around name data changes) :
    store.Changes around name data changes := by
  obtain ⟨resource, asked, hresource, hasked, -, hstamp⟩ := h
  exact ⟨resource, asked, hresource, hasked, hstamp⟩

variable (store : Store) (h : s.Shows records) (name : String)

include h

omit store in
theorem around_findOne (filter : Value) :
    ((onBackend (Connection.findOne name filter)).apply s).2.around = s.around := by
  obtain ⟨generation, hc⟩ := h
  rw [apply_onBackend_present generation hc.ready.connected,
    Connection.apply_findOne hc.ready.connected]
  rfl

/-- A record that is created has passed the checks of its resource, and is identified. -/
theorem create_identifies (data : Value) :
    Ends records (fun doc records' => ∃ built id, store.Stores s.around name data built ∧
        Connection.Identifies built id ∧ doc = Document.formatted (Keyed.put built idKey id) ∧
        records' = Function.update records name (records name ++ [Keyed.put built idKey id]))
      ((store.create name data).apply s) := by
  refine .bind_of_apply_eq h (apply_resource store name h.isConnected) fun resource hresource => ?_
  refine .bind_of_apply_eq h (apply_ofExcept _ _) fun _ _ => ?_
  have hshows := keeps_shows_outside (buildDocument resource data) s h
  refine .bind hshows fun built hbuilt => ?_
  generalize ((outside (buildDocument resource data)).apply s).2 = t at hshows ⊢
  refine .bind_of_apply_eq hshows (apply_ofExcept _ _) fun _ hchecked => ?_
  obtain ⟨generation, hc⟩ := hshows
  rw [apply_bind, apply_onBackend_present generation hc.ready.connected]
  obtain ⟨fault, hfault, hafter⟩ | ⟨id, hid, hidentifies, hafter⟩ :=
    Connection.insertOne_cases hc name built
  · rw [hfault]
    exact .inl ⟨fault, rfl, .present generation hafter⟩
  · rw [hid]
    exact .inr ⟨_, _, rfl, .present generation hafter, built, id,
      ⟨resource, hresource, hbuilt, hchecked⟩, hidentifies, rfl, rfl⟩

theorem create_stores (data : Value) :
    Ends records (fun doc records' => ∃ built id, store.Stores s.around name data built ∧
        doc = Document.formatted (Keyed.put built idKey id) ∧
        records' = Function.update records name (records name ++ [Keyed.put built idKey id]))
      ((store.create name data).apply s) :=
  (create_identifies store h name data).imp fun _ _ ⟨built, id, hstores, _, hdoc, hrecords⟩ =>
    ⟨built, id, hstores, hdoc, hrecords⟩

theorem create_ends (data : Value) :
    Ends records (fun doc records' => ∃ built id, store.Builds s.around name data built ∧
        doc = Document.formatted (Keyed.put built idKey id) ∧
        records' = Function.update records name (records name ++ [Keyed.put built idKey id]))
      ((store.create name data).apply s) :=
  (create_stores store h name data).imp fun _ _ ⟨built, id, hstores, hdoc, hrecords⟩ =>
    ⟨built, id, hstores.builds, hdoc, hrecords⟩

omit h in
/-- A record that has been changed is found again under its identifier. -/
theorem refind_yields {id : Value} {filter : Filter} {old : Document}
    (hread : Filter.read (byId id) = .ok filter)
    (hold : (records name).find? filter.holds = some old) (changes : Document) :
    Yields (State.Shows (Function.update records name
        (replaceFirst filter.holds (Ledger.amended changes) (records name)))) (do
      match ← onBackend (Connection.findOne name (byId id)) with
      | some doc => return doc.formatted
      | none => throw (.unknownRecord name id))
      (.ok (Ledger.amended changes old).formatted) := by
  obtain ⟨conditions, rfl⟩ : ∃ conditions, filter = [.field idKey conditions] := by
    rw [byId, Filter.read_single Filter.ofKey?_idKey] at hread
    cases hfield : Filter.readField idKey id with
    | error fault => rw [hfield] at hread; cases hread
    | ok conditions => rw [hfield] at hread; exact ⟨conditions, (Except.ok.inj hread).symm⟩
  have hnew := List.find?_some hold
  rw [← Ledger.holds_amended conditions changes] at hnew
  have hfound : Yields (State.Shows (Function.update records name (replaceFirst
      (Filter.holds [.field idKey conditions]) (Ledger.amended changes) (records name)))) _ _ :=
    onBackend_yields (Connection.findOne_yields name (byId id))
  rw [hread] at hfound
  simp only [Except.map, Function.update_self, find?_replaceFirst hold hnew] at hfound
  exact hfound.bind_ok (Yields.pure _)

/-- An update that has changed a record has passed the checks of its resource, and finds the record
again under its identifier. -/
theorem update_amends (id data : Value) :
    Ends records (fun doc records' => ∃ filter old changes, Filter.read (byId id) = .ok filter ∧
        (records name).find? filter.holds = some old ∧ store.Amends s.around name data changes ∧
        doc = (Ledger.amended changes old).formatted ∧
        records' = Function.update records name
          (replaceFirst filter.holds (Ledger.amended changes) (records name)))
      ((store.update name id data).apply s) := by
  refine .bind_of_apply_eq h (apply_resource store name h.isConnected) fun resource hresource => ?_
  have hfound := onBackend_yields (Connection.findOne_yields name (byId id)) s h
  refine .bind hfound.2 fun found hok => ?_
  rw [hfound.1] at hok
  have haround := around_findOne h name (byId id)
  have hshows := hfound.2
  generalize ((onBackend (Connection.findOne name (byId id))).apply s).2 = t at haround hshows ⊢
  cases found with
  | none => exact .inl ⟨_, rfl, hshows⟩
  | some old =>
      obtain ⟨filter, hread, hold⟩ : ∃ filter, Filter.read (byId id) = .ok filter ∧
          (records name).find? filter.holds = some old := by
        cases hread : Filter.read (byId id) with
        | error fault => rw [hread] at hok; cases hok
        | ok filter => rw [hread] at hok; exact ⟨filter, rfl, Except.ok.inj hok⟩
      refine .bind_of_apply_eq hshows (apply_ofExcept _ _) fun asked hasked => ?_
      refine .bind_of_apply_eq hshows (apply_ofExcept _ _) fun _ hchecked => ?_
      have hstamped := keeps_shows_outside (stamp resource asked) t hshows
      refine .bind hstamped fun changes hchanges => ?_
      have hchange : store.Amends s.around name data changes :=
        ⟨resource, asked, hresource, hasked, hchecked, by rw [← haround]; exact hchanges⟩
      generalize ((outside (stamp resource asked)).apply t).2 = u at hstamped ⊢
      obtain ⟨generation, hc⟩ := hstamped
      have hany : (records name).any filter.holds = true :=
        List.any_eq_true.mpr ⟨old, List.mem_of_find?_eq_some hold, List.find?_some hold⟩
      obtain ⟨hcount, hchanged⟩ := Connection.updateOne_shows hc hread name changes hany
      rw [apply_bind, apply_onBackend_present generation hc.ready.connected, hcount]
      obtain ⟨hdoc, hafter⟩ :=
        refind_yields name hread hold changes _ (.present generation hchanged)
      exact .inr ⟨_, _, hdoc, hafter, filter, old, changes, hread, hold, hchange, rfl, rfl⟩

theorem delete_ends (id : Value) :
    Ends records (fun existed records' => ∃ filter, Filter.read (byId id) = .ok filter ∧
        existed = (records name).any filter.holds ∧
        records' = Function.update records name ((records name).eraseP filter.holds))
      ((store.delete name id).apply s) := by
  refine .bind_of_apply_eq h (apply_resource store name h.isConnected) fun resource hresource => ?_
  obtain ⟨generation, hc⟩ := h
  rw [apply_bind, apply_onBackend_present generation hc.ready.connected]
  cases hread : Filter.read (byId id) with
  | error fault =>
      rw [Connection.apply_deleteOne hc.ready.connected, hread]
      exact .inl ⟨fault, rfl, .present generation (hc.touched name)⟩
  | ok filter =>
      obtain ⟨hcount, hafter⟩ := Connection.deleteOne_shows hc hread name
      rw [hcount]
      refine .inr ⟨_, _, rfl, .present generation hafter, filter, rfl, ?_, rfl⟩
      cases (records name).any filter.holds <;> rfl

/-! ## All calls -/

omit name h in
theorem connect_of_isConnected (hs : s.isConnected = true) :
    store.connect.apply s = (.ok (), s) := by
  rw [connect, apply_bind, apply_get]
  simp [hs]

omit name in
theorem shows_of_listCollections :
    (((StoreCall.listCollections).run store).apply s).2.Shows records := by
  obtain ⟨generation, hc⟩ := h
  change ((listCollections >>= fun names => pure (Reply.names names)).apply _).2.Shows records
  rw [bind_pure_comp, apply_map, listCollections,
    apply_onBackend_present generation hc.ready.connected, Connection.listCollections,
    apply_bind, Connection.apply_demand, hc.ready.connected]
  exact .present generation hc

omit name in
/-- A call that fails leaves all records as they were. -/
theorem shows_of_failed (call : StoreCall) {fault : Fault}
    (hfault : ((call.run store).apply s).1 = .error fault) :
    ((call.run store).apply s).2.Shows records := by
  cases call with
  | connect =>
      rw [StoreCall.run, StoreCall.silently, apply_bind,
        connect_of_isConnected store h.isConnected] at hfault
      cases hfault
  | disconnect =>
      obtain ⟨generation, hc⟩ := h
      rw [StoreCall.run, StoreCall.silently, apply_bind, disconnect_present] at hfault
      cases hfault
  | isConnected => exact h
  | listCollections => exact shows_of_listCollections store h
  | resources => exact h
  | resource name => exact h
  | create name data => exact (create_ends store h name data).of_error_bind_pure hfault
  | update name id data => exact (update_amends store h name id data).of_error_bind_pure hfault
  | delete name id => exact (delete_ends store h name id).of_error_bind_pure hfault
  | _ => exact keeps_shows_query store rfl s h

/-- What it means that in a state every call of a store does with the records what it should. -/
structure ActsOnRecords (store : Store) (s : State) : Prop where
  /-- A call that fails leaves all records as they were. -/
  failed : ∀ (call : StoreCall) (fault : Fault), ((call.run store).apply s).1 = .error fault →
    ((call.run store).apply s).2.records = s.records
  /-- A call that asks for records leaves all as they were, whether it fails or not. -/
  asked : ∀ call : StoreCall, call.isQuery = true →
    ((call.run store).apply s).2.records = s.records
  /-- A record created is put at the end of the others of its resource. -/
  created : ∀ (name : String) (data : Value) (doc : Document) (t : State),
    (store.create name data).apply s = (.ok doc, t) →
      ∃ built id, store.Builds s.around name data built ∧
        doc = Document.formatted (Keyed.put built idKey id) ∧
        t.records = Function.update s.records name
          (s.records name ++ [Keyed.put built idKey id])
  /-- A record created is found under its identifier. -/
  found : ∀ (name : String) (data : Value) (doc : Document) (t : State) (id : String),
    (store.create name data).apply s = (.ok doc, t) → doc.get idKey = .text id →
      ((store.findById name (.text id)).apply t).1 = .ok (some doc)
  /-- An update changes the one record of the identifier where it stands. -/
  updated : ∀ (name id : String) (data : Value) (doc : Document) (t : State),
    (store.update name (.text id) data).apply s = (.ok doc, t) →
      ∃ before old after changes, StandsAlone (s.records name) id before old after ∧
        store.Changes s.around name data changes ∧
        doc = (Ledger.amended changes old).formatted ∧
        t.records = Function.update s.records name
          (before ++ Ledger.amended changes old :: after)
  /-- A deletion that says so has removed the one record of the identifier. -/
  deleted : ∀ (name id : String) (t : State),
    (store.delete name (.text id)).apply s = (.ok true, t) →
      ∃ before doc after, StandsAlone (s.records name) id before doc after ∧
        t.records = Function.update s.records name (before ++ after)
  /-- A deletion that says that it has removed none has changed nothing, and there was none. -/
  spared : ∀ (name id : String) (t : State),
    (store.delete name (.text id)).apply s = (.ok false, t) →
      (∀ doc ∈ s.records name, doc.get idKey ≠ .text id) ∧ t.records = s.records
  /-- From a resource that there is, a deletion does not fail. -/
  deletes : ∀ name id : String, store.registry.has name = true →
    ∃ existed, ((store.delete name (.text id)).apply s).1 = .ok existed

theorem found_of_create {data : Value} {doc : Document} {t : State} {id : String}
    (hcreate : (store.create name data).apply s = (.ok doc, t))
    (hid : doc.get idKey = .text id) :
    ((store.findById name (.text id)).apply t).1 = .ok (some doc) := by
  obtain ⟨records', ht, built, key, ⟨resource, hresource, -⟩, rfl, rfl⟩ :=
    (create_ends store h name data).of_ok (congrArg Prod.fst hcreate)
  rw [hcreate] at ht
  rw [Document.get_idKey_formatted] at hid
  have hnew : Keyed.put built idKey key ∈ Function.update records name
      (records name ++ [Keyed.put built idKey key]) name := by
    simp
  have hfound := (ht.toldApart name).find?_text hnew hid
  rw [(findById_yields store name (.text id) t ht).1, hresource, read_byId_text]
  change Except.ok (Option.map _ _) = _
  rw [hfound]
  rfl

theorem amended_of_update {id : String} {data : Value} {doc : Document} {t : State}
    (hupdate : (store.update name (.text id) data).apply s = (.ok doc, t)) :
    ∃ before old after changes, StandsAlone (records name) id before old after ∧
      store.Amends s.around name data changes ∧
      doc = (Ledger.amended changes old).formatted ∧
      t.records = Function.update records name
        (before ++ Ledger.amended changes old :: after) := by
  obtain ⟨records', ht, filter, old, changes, hread, hold, hamends, rfl, rfl⟩ :=
    (update_amends store h name (.text id) data).of_ok (congrArg Prod.fst hupdate)
  rw [hupdate] at ht
  rw [read_byId_text] at hread
  cases hread
  obtain ⟨hholds, before, after, hdocs, hbefore⟩ := List.find?_eq_some_iff_append.mp hold
  refine ⟨before, old, after, changes, ?_, hamends, rfl, ?_⟩
  · exact (h.toldApart name).standsAlone hdocs (Filter.holds_text_iff.mp hholds)
  · rw [ht.records_eq, hdocs, replaceFirst_append (by simpa using hbefore) hholds]

theorem updated_of_update {id : String} {data : Value} {doc : Document} {t : State}
    (hupdate : (store.update name (.text id) data).apply s = (.ok doc, t)) :
    ∃ before old after changes, StandsAlone (records name) id before old after ∧
      store.Changes s.around name data changes ∧
      doc = (Ledger.amended changes old).formatted ∧
      t.records = Function.update records name
        (before ++ Ledger.amended changes old :: after) := by
  obtain ⟨before, old, after, changes, halone, hamends, hdoc, hrecords⟩ :=
    amended_of_update store h name hupdate
  exact ⟨before, old, after, changes, halone, hamends.changes, hdoc, hrecords⟩

theorem records_of_delete {id : String} {existed : Bool} {t : State}
    (hdelete : (store.delete name (.text id)).apply s = (.ok existed, t)) :
    existed = (records name).any (Filter.equating idKey (.text id)).holds ∧
      t.records = Function.update records name
        ((records name).eraseP (Filter.equating idKey (.text id)).holds) := by
  obtain ⟨records', ht, filter, hread, hexisted, rfl⟩ :=
    (delete_ends store h name (.text id)).of_ok (congrArg Prod.fst hdelete)
  rw [hdelete] at ht
  rw [read_byId_text] at hread
  cases hread
  exact ⟨hexisted, ht.records_eq⟩

theorem deleted_of_delete {id : String} {t : State}
    (hdelete : (store.delete name (.text id)).apply s = (.ok true, t)) :
    ∃ before doc after, StandsAlone (records name) id before doc after ∧
      t.records = Function.update records name (before ++ after) := by
  obtain ⟨hsome, hrecords⟩ := records_of_delete store h name hdelete
  obtain ⟨doc, hdoc, hholds⟩ := List.any_eq_true.mp hsome.symm
  obtain ⟨before, after, hdocs⟩ := List.append_of_mem hdoc
  have halone := (h.toldApart name).standsAlone hdocs (Filter.holds_text_iff.mp hholds)
  have hbefore : ∀ other ∈ before, ¬(Filter.equating idKey (.text id)).holds other = true := by
    intro other hother
    rw [Filter.holds_text_iff]
    exact halone.others other (List.mem_append_left _ hother)
  refine ⟨before, doc, after, halone, ?_⟩
  rw [hrecords, hdocs, List.eraseP_append_right _ hbefore, List.eraseP_cons_of_pos hholds]

theorem spared_of_delete {id : String} {t : State}
    (hdelete : (store.delete name (.text id)).apply s = (.ok false, t)) :
    (∀ doc ∈ records name, doc.get idKey ≠ .text id) ∧ t.records = records := by
  obtain ⟨hnone, hrecords⟩ := records_of_delete store h name hdelete
  have hfails := List.any_eq_false.mp hnone.symm
  refine ⟨fun doc hdoc hid => hfails doc hdoc (Filter.holds_text_iff.mpr hid), ?_⟩
  rw [hrecords, List.eraseP_of_forall_not hfails, Function.update_eq_self]

theorem delete_answers (hname : store.registry.has name = true) (id : String) :
    ∃ existed, ((store.delete name (.text id)).apply s).1 = .ok existed := by
  obtain ⟨resource, hfind⟩ := Option.isSome_iff_exists.mp hname
  have hget : store.registry.get name = .ok resource := by rw [Registry.get, hfind]
  have hresource := apply_resource store name h.isConnected
  obtain ⟨generation, hc⟩ := h
  obtain ⟨hcount, -⟩ := Connection.deleteOne_shows hc (read_byId_text id) name
  rw [delete, apply_bind, hresource, hget]
  dsimp only
  rw [apply_bind, apply_onBackend_present generation hc.ready.connected, hcount]
  exact ⟨_, rfl⟩

omit h name in
/-- Calls of a store do with the records what they should, whatever programs have led to the state
of the store, and also in the midst of a transaction. -/
theorem acts_on_records (hpasses : (storeHost store).Passes State.IsNew s)
    (hs : s.isConnected = true) : ActsOnRecords store s := by
  have h := shows_of_passes hpasses hs
  constructor
  case failed => exact fun call fault hfault => (shows_of_failed store h call hfault).records_eq
  case asked => exact fun call hcall => (keeps_shows_query store hcall s h).records_eq
  case created =>
    intro name data doc t hcreate
    obtain ⟨records', ht, built, id, hbuilt, hdoc, rfl⟩ :=
      (create_ends store h name data).of_ok (congrArg Prod.fst hcreate)
    rw [hcreate] at ht
    exact ⟨built, id, hbuilt, hdoc, ht.records_eq⟩
  case found => exact fun name _ _ _ _ => found_of_create store h name
  case updated => exact fun name _ _ _ _ => updated_of_update store h name
  case deleted => exact fun name _ _ => deleted_of_delete store h name
  case spared => exact fun name _ _ => spared_of_delete store h name
  case deletes => exact fun name id hname => delete_answers store h name hname id

/-- The state of the store of deals in the midst of a transaction, after the creation of a deal. -/
def dealsUnderWay : State :=
  (((storeHost deals).call (.create "Deal" (.object [("title", .text "A")]))).apply
    (begin.apply dealsConnected).2).2

omit h name in
theorem acts_on_records_dealsUnderWay :
    (storeHost deals).Passes State.IsNew dealsUnderWay ∧ dealsUnderWay.isConnected = true ∧
      (dealsUnderWay.records "Deal").length = 1 ∧ ActsOnRecords deals dealsUnderWay := by
  have hpasses : (storeHost deals).Passes State.IsNew dealsUnderWay :=
    ((Host.Passes.of_reachable ⟨_, _, ⟨_, rfl⟩, rfl⟩).begin).call _
  exact ⟨hpasses, rfl, rfl, acts_on_records deals hpasses rfl⟩

end Store

end Docbase
