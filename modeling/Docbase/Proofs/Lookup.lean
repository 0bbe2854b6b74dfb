import Docbase.Proofs.Atomicity
import Docbase.Proofs.Filing

/-! # Looking documents up

A value that is no expression of operators, given for a key in a filter, selects the documents that
hold an equal value under the key. What is found depends on the documents alone, and finding leaves
them as they are.
-/

namespace Docbase

open Effect Script

/-- Whether a value, given for a key in a filter, asks for anything but equality to itself. -/
def Value.isExpression : Value → Bool
  | object fields => fields.any fun entry => isOperatorKey entry.1
  | pattern _ => true
  | _ => false

namespace Filter

/-- The filter of the documents that hold a value under a key. -/
def equating (key : String) (value : Value) : Filter :=
  [.field key [.equal value]]

theorem holds_single (key : String) (conditions : List Condition) (doc : Document) :
    Filter.holds [.field key conditions] doc = Condition.allHold (doc.get key) conditions := by
  simp [Filter.holds, Clause.allHold, Clause.holds]

@[simp]
theorem holds_equating (key : String) (value : Value) (doc : Document) :
    (equating key value).holds doc = (doc.get key).sameKind value := by
  simp [equating, holds_single, Condition.allHold, Condition.holds]

theorem holds_text_iff {key id : String} {doc : Document} :
    (equating key (.text id)).holds doc = true ↔ doc.get key = .text id := by
  rw [holds_equating, Value.sameKind_text_iff]

theorem read_single {key : String} (hkey : Connective.ofKey? key = none) (value : Value) :
    Filter.read (.object [(key, value)]) =
      (readField key value).map fun conditions => [.field key conditions] := by
  rw [Filter.read, readClauses.eq_4 _ _ _ hkey, readClauses]
  cases readField key value <;> rfl

theorem readField_of_plain {value : Value} (hvalue : value.isExpression = false) (key : String) :
    readField key value = .ok [.equal value] := by
  cases value with
  | object fields =>
      rw [Value.isExpression] at hvalue
      simp [readField, hvalue]
  | pattern p => cases hvalue
  | _ => rw [readField] <;> simp

theorem read_equating {key : String} {value : Value} (hkey : Connective.ofKey? key = none)
    (hvalue : value.isExpression = false) :
    Filter.read (.object [(key, value)]) = .ok (equating key value) := by
  rw [read_single hkey, readField_of_plain hvalue]
  rfl

/-- An expression that asks for equality is read as such. -/
theorem read_asking {k : String} (hk : Connective.ofKey? k = none) (value : Value) :
    Filter.read (.object [(k, .object [("$eq", value)])]) = .ok (equating k value) := by
  have hfield : readField k (.object [("$eq", value)]) = .ok [.equal value] := by
    have hoperator : isOperatorKey "$eq" = true := by decide
    have hkey : Operator.ofKey? "$eq" = some .eq := by decide
    have hoptions : "$eq" ≠ optionsKey := by decide
    simp [readField, readConditions, hoperator, hkey, hoptions]
  rw [read_single hk, hfield]
  rfl

theorem ofKey?_idKey : Connective.ofKey? idKey = none := by
  decide

end Filter

theorem Document.get_idKey_formatted (doc : Document) :
    Document.get doc.formatted idKey = doc.get idKey := by
  unfold Document.formatted
  split
  next => rfl
  next => simp [Document.get, Keyed.get?_put_of_ne, idKey, publicIdKey]

/-! ## Documents that their identifiers tell apart -/

/-- One document of a list carries an identifier: those before it, the document itself, and those
after it. -/
structure StandsAlone (docs : List Document) (id : String) (before : List Document)
    (doc : Document) (after : List Document) : Prop where
  docs_eq : docs = before ++ doc :: after
  carried : doc.get idKey = .text id
  others : ∀ other ∈ before ++ after, other.get idKey ≠ .text id

/-- The identifiers of some documents count as true and cannot change, and no two are equal. -/
structure ToldApart (docs : List Document) : Prop where
  fixed : ∀ doc ∈ docs, (doc.get idKey).isTruthy = true ∧ (doc.get idKey).isMutable = false
  distinct : docs.Pairwise fun a b => Value.eq (a.get idKey) (b.get idKey) = false

namespace ToldApart

variable {docs : List Document} {doc : Document} {id : String} (h : ToldApart docs)

include h

/-- A document is the only one that carries its identifier. -/
theorem standsAlone {before after : List Document} (hdocs : docs = before ++ doc :: after)
    (hid : doc.get idKey = .text id) : StandsAlone docs id before doc after := by
  refine ⟨hdocs, hid, fun other hother hsame => ?_⟩
  have hdistinct := h.distinct
  rw [hdocs, List.pairwise_append, List.pairwise_cons] at hdistinct
  have hequal : Value.eq (.text id) (.text id) = true := Value.eq_text_iff.mpr rfl
  rcases List.mem_append.mp hother with hbefore | hafter
  · have hne := hdistinct.2.2 other hbefore doc List.mem_cons_self
    rw [hsame, hid, hequal] at hne
    cases hne
  · have hne := hdistinct.2.1.1 other hafter
    rw [hsame, hid, hequal] at hne
    cases hne

/-- A document is found under the text that identifies it. -/
theorem find?_text (hdoc : doc ∈ docs) (hid : doc.get idKey = .text id) :
    docs.find? (Filter.equating idKey (.text id)).holds = some doc := by
  obtain ⟨before, after, hdocs⟩ := List.append_of_mem hdoc
  have halone := h.standsAlone hdocs hid
  rw [List.find?_eq_some_iff_append]
  refine ⟨Filter.holds_text_iff.mpr hid, before, after, hdocs, fun other hother => ?_⟩
  have hne := halone.others other (List.mem_append_left _ hother)
  rw [Ne, ← Filter.holds_text_iff] at hne
  simpa using hne

end ToldApart

namespace Connection

/-- A connection is ready, and its collections hold the documents that are given for their names. -/
structure Shows (records : String → List Document) (c : Connection) : Prop where
  ready : c.backend.Ready
  documents : ∀ name, (c.backend.collection name).documents = records name

variable {records : String → List Document}

namespace Shows

variable {c : Connection} (h : c.Shows records)

include h

theorem indexed (name : String) : Collection.Indexed (c.backend.collection name).stored :=
  (h.ready.inOrder.collection name).stored.toIndexed

theorem touched (name : String) : (c.touched name).Shows records where
  ready := ⟨h.ready.connected, h.ready.inOrder.replace name (h.ready.inOrder.collection name)⟩
  documents := by
    intro other
    rw [touched_collection]
    exact h.documents other

theorem stored_eq (name : String) :
    (c.backend.collection name).stored = (records name).map Collection.entry := by
  rw [← h.documents name]
  exact (h.indexed name).eq_map_entry

theorem toldApart (name : String) : ToldApart (records name) := by
  have hstored := (h.ready.inOrder.collection name).stored
  rw [h.stored_eq] at hstored
  refine ⟨fun doc hdoc => hstored.fixed _ (List.mem_map_of_mem hdoc), ?_⟩
  have hdistinct := hstored.distinct
  rw [List.map_map] at hdistinct
  exact List.pairwise_map.mp hdistinct

end Shows

theorem shows_readable (records : String → List Document) :
    Readable fun c d => c = d ∧ c.Shows records where
  connected := by rintro c _ ⟨rfl, -⟩; rfl
  collection := by rintro c _ ⟨rfl, -⟩ name; rfl
  touched := by rintro c _ ⟨rfl, h⟩ name; exact ⟨rfl, h.touched name⟩
  noted := by rintro c _ ⟨rfl, h⟩ entries; exact ⟨rfl, h.ready, h.documents⟩

/-! ## Finding -/

theorem findOne_yields (name : String) (filter : Value) :
    Yields (Shows records) (findOne name filter)
      ((Filter.read filter).map fun filter => (records name).find? filter.holds) := by
  intro c h
  rw [apply_findOne h.ready.connected]
  refine ⟨?_, h.touched name⟩
  cases Filter.read filter with
  | error fault => rfl
  | ok filter => simp [Except.map, (h.indexed name).findOne_eq, h.documents]

theorem find_yields (name : String) (filter : Filter) :
    Yields (Shows records) (find name { filter }) (.ok ((records name).filter filter.holds)) := by
  intro c h
  rw [apply_find h.ready.connected]
  exact ⟨by rw [(h.indexed name).find_eq, h.documents], h.touched name⟩

end Connection

/-! ## Records of a store -/

namespace Store

/-- The documents of the collection of a name, in order. -/
def State.records (s : State) (name : String) : List Document :=
  (s.stored name).map (·.2)

theorem records_present (generation : Nat) (c : Connection) (name : String) :
    (State.present generation c).records name = (c.backend.collection name).documents := by
  rw [State.records, stored_present]
  rfl

/-- A store is connected, and its collections hold the documents that are given for their names. -/
inductive State.Shows (records : String → List Document) : State → Prop
  | present (generation : Nat) {c : Connection} (h : c.Shows records) :
      Shows records (.present generation c)

variable {records : String → List Document} {s : State}

theorem State.Shows.isConnected (h : s.Shows records) : s.isConnected = true := by
  cases h with
  | present generation h => exact h.ready.connected

theorem State.Shows.records_eq (h : s.Shows records) : s.records = records := by
  cases h with
  | present generation h =>
      funext name
      rw [records_present]
      exact h.documents name

theorem State.Shows.toldApart (h : s.Shows records) (name : String) :
    ToldApart (records name) := by
  cases h with
  | present generation h => exact h.toldApart name

theorem State.Has.shows (h : s.Has Backend.Ready) (hs : s.isConnected = true) :
    s.Shows s.records := by
  cases h with
  | absent generation around => cases hs
  | present generation c hready =>
      exact .present generation ⟨hready, fun name => (records_present generation c name).symm⟩

/-- Every store that programs pass through shows its records while it is connected. -/
theorem shows_of_passes {store : Store} (h : (storeHost store).Passes State.IsNew s)
    (hs : s.isConnected = true) : s.Shows s.records :=
  (has_ready_of_passes h).shows hs

/-- A store that has a record is connected. -/
theorem shows_of_mem {store : Store} (h : (storeHost store).Passes State.IsNew s) {name : String}
    {doc : Document} (hdoc : doc ∈ s.records name) : s.Shows s.records := by
  refine shows_of_passes h ?_
  cases has_ready_of_passes h with
  | absent generation around => cases hdoc
  | present generation c hready => exact hready.connected

theorem toldApart_of_passes {store : Store} (h : (storeHost store).Passes State.IsNew s)
    (name : String) : ToldApart (s.records name) := by
  cases hrecords : s.records name with
  | nil => exact ⟨by simp, .nil⟩
  | cons doc rest =>
      rw [← hrecords]
      exact (shows_of_mem h (hrecords ▸ List.mem_cons_self)).toldApart name

section

variable {α : Type}

theorem onBackend_yields {effect : Effect Connection α} {outcome : Except Fault α}
    (h : Yields (Connection.Shows records) effect outcome) :
    Yields (State.Shows records) (onBackend effect) outcome := by
  rintro _ ⟨generation, hc⟩
  obtain ⟨hsame, hafter⟩ := h _ hc
  rw [apply_onBackend_present generation hc.ready.connected]
  exact ⟨hsame, .present generation hafter⟩

theorem keeps_shows_outside (effect : Effect Surroundings α) :
    Keeps (State.Shows records) (outside effect) := by
  rintro _ ⟨generation, hc⟩
  rw [apply_outside_present]
  exact .present generation ⟨hc.ready, hc.documents⟩

end

variable (store : Store) (name : String)

theorem apply_resource (hs : s.isConnected = true) :
    (store.resource name).apply s = (store.registry.get name, s) := by
  rw [resource, apply_bind, apply_demand, hs]
  rfl

theorem resource_yields :
    Yields (State.Shows records) (store.resource name) (store.registry.get name) := by
  intro s h
  rw [apply_resource store name h.isConnected]
  exact ⟨rfl, h⟩

/-- The record of an identifier, given in a filter that has to be read, is the first one that the
filter holds of. -/
theorem findById_yields (id : Value) :
    Yields (State.Shows records) (store.findById name id) (do
      let _ ← store.registry.get name
      let filter ← Filter.read (byId id)
      return ((records name).find? filter.holds).map Document.formatted) := by
  refine (resource_yields store name).bind fun _ _ => ?_
  refine ((onBackend_yields (Connection.findOne_yields name (byId id))).bind
    fun found _ => Yields.pure (found.map Document.formatted)).of_eq ?_
  cases Filter.read (byId id) <;> rfl

/-- Whatever is asked of a store, the records stay as they are. -/
theorem keeps_shows_query {call : StoreCall} (hcall : call.isQuery = true) :
    Keeps (State.Shows records) (call.run store) := by
  rintro _ ⟨generation, hc⟩
  have hlifted : Lifted generation False _ _ _ :=
    (StoreCall.query_agrees (Connection.shows_readable records) store hcall _ _
      (.present _ _ ⟨rfl, hc⟩)).2
  obtain ⟨hnever, -⟩ | ⟨d, _, ⟨-, hd⟩, hafter⟩ := hlifted.left
  · exact hnever.elim
  · rw [hafter]
    exact .present generation hd

end Store

end Docbase
