import Docbase.Proofs.NewRecords

/-! # The keys that records have

A schema tells what keys a record has: that of its identifier, those of its fields and those of its
relations to one. A record has them all, and no others, unless it was created without the key of a
relation that has to be given, or an update has written a key that the schema does not know. Neither
is refused.
-/

namespace Docbase

open Effect Script

namespace Resource

/-- A record has the keys that its resource assures, and no key twice. -/
structure Assures (resource : Resource) (doc : Document) : Prop where
  nodup : (Keyed.keys doc).Nodup
  assured : ∀ key ∈ resource.assuredKeys, key ∈ Keyed.keys doc

/-- A record has the keys of its resource, each once, and no others. -/
structure Shapes (resource : Resource) (doc : Document) : Prop where
  nodup : (Keyed.keys doc).Nodup
  mem_iff : ∀ key, key ∈ Keyed.keys doc ↔ key ∈ resource.keys

/-- What is given for a new record mentions the keys of all relations that have to be given, other
than those that the record has anyway. -/
def IsCompletedBy (resource : Resource) (data : Value) : Prop :=
  ∀ relation ∈ resource.singles, relation.isRequired = true →
    relation.keyField ∈ resource.assuredKeys ∨
      Store.mentions data relation.keyField = .ok true

/-- Changes are to keys of the resource, but for the fixed ones, to which none are made. -/
def Covers (resource : Resource) (data : Value) : Prop :=
  ∀ fields, data = .object fields → ∀ key ∈ Keyed.keys fields,
    key ∈ Store.fixedKeys ∨ key ∈ resource.keys

variable {resource : Resource} {doc : Document}

theorem idKey_mem_assuredKeys : idKey ∈ resource.assuredKeys :=
  List.mem_cons_self

theorem mem_keys_of_assured {key : String} (h : key ∈ resource.assuredKeys) :
    key ∈ resource.keys :=
  mem_keys_iff.mpr (.inl h)

theorem Shapes.assures (h : resource.Shapes doc) : resource.Assures doc :=
  ⟨h.nodup, fun key hkey => (h.mem_iff key).mpr (mem_keys_of_assured hkey)⟩

/-- The moment of the last update is kept under the key of a field. -/
theorem stampKey?_mem_assuredKeys {key : String} (h : Store.stampKey? resource = some key) :
    key ∈ resource.assuredKeys := by
  have hupdated := Store.stampKey?_mem h
  obtain ⟨field, hfound, rfl⟩ := Option.map_eq_some_iff.mp h
  have hplain : Store.isIdentifier field = false := by
    have hname : field.name ≠ publicIdKey := by
      rintro hname
      rw [hname] at hupdated
      exact absurd hupdated (by decide)
    simp [Store.isIdentifier, hname]
  have hkey : field.storageKey = field.name := by
    rw [Field.storageKey, if_neg (by simp [hplain])]
  refine List.mem_cons_of_mem _ (List.mem_append_left _ ?_)
  exact List.mem_map.mpr ⟨field, List.mem_of_find?_eq_some hfound, hkey⟩

end Resource

namespace Store

/-! ## New records -/

section

variable {resource : Resource} {data : Value} {around : Surroundings} {built : Document}
  (h : ((buildDocument resource data).apply around).1 = .ok built) (id : Value)

include h

theorem assures_of_build : resource.Assures (Keyed.put built idKey id) := by
  obtain ⟨hnodup, hkeys⟩ := keys_of_build h id
  exact ⟨hnodup, fun key hkey => (hkeys key).mpr (.inl hkey)⟩

/-- A new record has its shape exactly if what was given for it completes it. -/
theorem shapes_build_iff :
    resource.Shapes (Keyed.put built idKey id) ↔ resource.IsCompletedBy data := by
  obtain ⟨hnodup, hkeys⟩ := keys_of_build h id
  constructor
  · intro hshapes relation hrelation hrequired
    have hkey := (hshapes.mem_iff relation.keyField).mpr
      (Resource.mem_keys_iff.mpr (.inr ⟨relation, hrelation, hrequired, rfl⟩))
    rcases (hkeys _).mp hkey with hassured | ⟨_, -, -, hmentions⟩
    · exact .inl hassured
    · exact .inr hmentions
  · intro hcompleted
    refine ⟨hnodup, fun key => ?_⟩
    rw [hkeys, Resource.mem_keys_iff]
    constructor
    · rintro (hassured | ⟨relation, hrelation, rfl, -⟩)
      · exact .inl hassured
      · exact Resource.mem_keys_iff.mp
          (List.mem_cons_of_mem _ (List.mem_append_right _ (List.mem_map_of_mem hrelation)))
    · rintro (hassured | ⟨relation, hrelation, hrequired, rfl⟩)
      · exact .inl hassured
      · exact (hcompleted relation hrelation hrequired).imp_right fun hmentions =>
          ⟨relation, hrelation, rfl, hmentions⟩

end

/-! ## Updates -/

section

variable {store : Store} {around : Surroundings} {name : String} {data : Value}
  {old changes : Document}

/-- An update adds the keys that it was given, but for fixed ones, to the keys of a record. -/
theorem keys_of_amends (h : store.Amends around name data changes) :
    ∃ fields resource, data = .object fields ∧ store.registry.get name = .ok resource ∧
      ∀ old, resource.Assures old → (Keyed.keys (Ledger.amended changes old)).Nodup ∧
        ∀ key, key ∈ Keyed.keys (Ledger.amended changes old) ↔
          key ∈ Keyed.keys old ∨ (key ∈ Keyed.keys fields ∧ key ∉ fixedKeys) := by
  obtain ⟨fields, resource, rfl, hresource, -, rfl⟩ := h.changes_eq
  refine ⟨fields, resource, rfl, hresource, fun old hold => ⟨?_, fun key => ?_⟩⟩
  · exact Keyed.nodup_keys_put (Keyed.nodup_keys_merge hold.nodup) _ _
  · have hid : key = idKey → key ∈ Keyed.keys old := by
      rintro rfl
      exact hold.assured _ Resource.idKey_mem_assuredKeys
    -- The moment of the update goes to the key of a field, which the record has already.
    have hstamp : stampKey? resource = some key → key ∈ Keyed.keys old :=
      fun hstamp => hold.assured _ (Resource.stampKey?_mem_assuredKeys hstamp)
    have hunfixed : key ∈ Keyed.keys (unfixed fields) ↔ key ∈ Keyed.keys fields ∧
        key ∉ fixedKeys := by
      rw [unfixed, Keyed.mem_keys_only]
      simp
    have hchanges : key ∈ Keyed.keys (stampedAt resource (Clock.text around.now)
        (unfixed fields)) ↔ key ∈ Keyed.keys (unfixed fields) ∨ stampKey? resource = some key := by
      unfold stampedAt
      cases stampKey? resource with
      | none => simp
      | some stamped => rw [Keyed.mem_keys_put, Option.some.injEq, eq_comm]
    rw [Ledger.amended, Keyed.mem_keys_put, Keyed.mem_keys_merge, hchanges, hunfixed]
    grind

variable {resource : Resource} {fields new : Document}

/-- A record that has had its shape has it after an update exactly if the changes are to keys of the
resource. -/
theorem shapes_amended_iff (hold : resource.Shapes old) (hnodup : (Keyed.keys new).Nodup)
    (hkeys : ∀ key, key ∈ Keyed.keys new ↔
      key ∈ Keyed.keys old ∨ (key ∈ Keyed.keys fields ∧ key ∉ fixedKeys)) :
    resource.Shapes new ↔ resource.Covers (.object fields) := by
  constructor
  · rintro hshapes _ ⟨⟩ key hkey
    by_cases hfixed : key ∈ fixedKeys
    · exact .inl hfixed
    · exact .inr ((hshapes.mem_iff key).mp ((hkeys key).mpr (.inr ⟨hkey, hfixed⟩)))
  · intro hcovers
    refine ⟨hnodup, fun key => ?_⟩
    rw [hkeys, hold.mem_iff]
    constructor
    · rintro (hkey | ⟨hkey, hfixed⟩)
      · exact hkey
      · exact (hcovers fields rfl key hkey).resolve_left hfixed
    · exact .inl

end

/-! ## Runs -/

/-- A call that creates a record completes it, and one that updates a record changes keys of its
resource. -/
def RespectsShape (store : Store) : StoreCall → Prop
  | .create name data =>
    ∀ resource, store.registry.get name = .ok resource → resource.IsCompletedBy data
  | .update name _ data =>
    ∀ resource, store.registry.get name = .ok resource → resource.Covers data
  | _ => True

/-- What it means that in a state records have the keys that they should, as far as nothing was left
out or added in calls. -/
structure KeepsShape (store : Store) (s : State) : Prop where
  /-- Whatever calls were made, a record has all keys but those of relations that have to be
  given. -/
  assured : ∀ name, ∀ doc ∈ s.records name, ∃ resource,
    store.registry.get name = .ok resource ∧ resource.Assures doc
  /-- A record that is created has these keys, and those of the other relations that are given. So
  it has its shape exactly if it is completed. -/
  created : ∀ (name : String) (data : Value) (doc : Document) (t : State),
    (store.create name data).apply s = (.ok doc, t) → ∃ resource new,
      store.registry.get name = .ok resource ∧ doc = Document.formatted new ∧
      t.records = Function.update s.records name (s.records name ++ [new]) ∧
      (∀ key, key ∈ Keyed.keys new ↔ key ∈ resource.assuredKeys ∨
        ∃ relation ∈ resource.singles, relation.keyField = key ∧ mentions data key = .ok true) ∧
      (resource.Shapes new ↔ resource.IsCompletedBy data)
  /-- An update adds the keys of the changes to those of one record. So the record keeps its shape
  exactly if the changes are to keys of the resource. -/
  updated : ∀ (name id : String) (data : Value) (doc : Document) (t : State),
    (store.update name (.text id) data).apply s = (.ok doc, t) →
      ∃ fields resource before old new after, data = .object fields ∧
        store.registry.get name = .ok resource ∧
        StandsAlone (s.records name) id before old after ∧ doc = Document.formatted new ∧
        t.records = Function.update s.records name (before ++ new :: after) ∧
        (∀ key, key ∈ Keyed.keys new ↔
          key ∈ Keyed.keys old ∨ (key ∈ Keyed.keys fields ∧ key ∉ fixedKeys)) ∧
        (resource.Shapes old → (resource.Shapes new ↔ resource.Covers data))
  /-- If no call on the way has left out or added a key, all records have their shape. -/
  shaped : ((storeHost store).taking store.RespectsShape).Passes State.IsNew s →
    ∀ name, ∀ doc ∈ s.records name, ∃ resource,
      store.registry.get name = .ok resource ∧ resource.Shapes doc

section

variable {store : Store} {s : State}

theorem assures_of_passes (hpasses : (storeHost store).Passes State.IsNew s) (name : String)
    (doc : Document) (hdoc : doc ∈ s.records name) :
    ∃ resource, store.registry.get name = .ok resource ∧ resource.Assures doc := by
  have hupholds : s.Has (Backend.Upholds fun name doc => ∃ resource,
      store.registry.get name = .ok resource ∧ resource.Assures doc) := by
    refine upholds_of_passes store (fun s call _ => ?_) (hpasses.taking_all fun _ => trivial)
    constructor
    · rintro name data built id - - ⟨resource, hresource, hbuilt, -⟩
      exact ⟨resource, hresource, assures_of_build hbuilt id⟩
    · rintro name id data changes old - hamends ⟨resource, hresource, hold⟩
      obtain ⟨fields, resource', -, hresource', hkeys⟩ := keys_of_amends hamends
      obtain rfl := Except.ok.inj (hresource.symm.trans hresource')
      obtain ⟨hnodup, hkeys⟩ := hkeys old hold
      exact ⟨resource, hresource, hnodup, fun key hkey =>
        (hkeys key).mpr (.inl (hold.assured key hkey))⟩
  exact (hupholds.imp fun _ h => h.live).live name doc hdoc

theorem shapes_of_passes
    (hpasses : ((storeHost store).taking store.RespectsShape).Passes State.IsNew s) (name : String)
    (doc : Document) (hdoc : doc ∈ s.records name) :
    ∃ resource, store.registry.get name = .ok resource ∧ resource.Shapes doc := by
  have hupholds : s.Has (Backend.Upholds fun name doc => ∃ resource,
      store.registry.get name = .ok resource ∧ resource.Shapes doc) := by
    refine upholds_of_passes store (fun s call hcall => ?_) hpasses
    constructor
    · rintro name data built id rfl - ⟨resource, hresource, hbuilt, -⟩
      exact ⟨resource, hresource, (shapes_build_iff hbuilt id).mpr (hcall resource hresource)⟩
    · rintro name id data changes old rfl hamends ⟨resource, hresource, hold⟩
      obtain ⟨fields, resource', rfl, hresource', hkeys⟩ := keys_of_amends hamends
      obtain rfl := Except.ok.inj (hresource.symm.trans hresource')
      obtain ⟨hnodup, hkeys⟩ := hkeys old hold.assures
      exact ⟨resource, hresource,
        (shapes_amended_iff hold hnodup hkeys).mpr (hcall resource hresource)⟩
  exact (hupholds.imp fun _ h => h.live).live name doc hdoc

end

/-- Whatever a program does, its records have the keys that are always there. They have the shape of
their resource as long as its calls complete new records and add no keys. -/
theorem keeps_shape (store : Store) (s : State)
    (hpasses : (storeHost store).Passes State.IsNew s) : KeepsShape store s := by
  constructor
  case assured => exact assures_of_passes hpasses
  case created =>
    intro name data doc t hcreate
    have hshows := shows_of_passes hpasses (isConnected_of_ok (congrArg Prod.fst hcreate))
    obtain ⟨records', ht, built, id, ⟨resource, hresource, hbuilt⟩, rfl, rfl⟩ :=
      (create_ends store hshows name data).of_ok (congrArg Prod.fst hcreate)
    rw [hcreate] at ht
    exact ⟨resource, _, hresource, rfl, ht.records_eq, (keys_of_build hbuilt id).2,
      shapes_build_iff hbuilt id⟩
  case updated =>
    intro name id data doc t hupdate
    have hshows := shows_of_passes hpasses (isConnected_of_ok (congrArg Prod.fst hupdate))
    obtain ⟨before, old, after, changes, halone, hamends, rfl, hrecords⟩ :=
      amended_of_update store hshows name hupdate
    obtain ⟨fields, resource, rfl, hresource, hkeys⟩ := keys_of_amends hamends
    have hold : old ∈ s.records name := by simp [halone.docs_eq]
    obtain ⟨resource', hresource', hassures⟩ := assures_of_passes hpasses name old hold
    obtain rfl := Except.ok.inj (hresource.symm.trans hresource')
    obtain ⟨hnodup, hkeys⟩ := hkeys old hassures
    exact ⟨fields, resource, before, old, _, after, rfl, hresource, halone, rfl, hrecords, hkeys,
      fun hshapes => shapes_amended_iff hshapes hnodup hkeys⟩
  case shaped => exact shapes_of_passes

/-- The resource of tasks, which have a title and must have an owner. -/
def taskResource : Resource where
  name := "Task"
  fields :=
    [{ name := "id", kind := .uuid, isRequired := true }, { name := "title", kind := .string }]
  relations := [{ name := "owner", target := "User", isRequired := true }]

/-- A store of users and their tasks. -/
def duties : Store where
  registry := .ofSchema { resources := [{ name := "User" }, taskResource] }

/-- The store of duties after the creation of a user and a task, and an update of the task in a
transaction that has not ended. -/
def dutiesUnderWay (given changes : Value) : State :=
  let call op s := ((((storeHost duties).call op).apply s).2 : State)
  call (.update "Task" (.text (Identifier.ofNat 2)) changes) (begin.apply
    (call (.create "Task" given) (call (.create "User" (.object [])) (call .connect {})))).2

theorem dutiesUnderWay_passes (given changes : Value) :
    (storeHost duties).Passes State.IsNew (dutiesUnderWay given changes) :=
  ((((Host.Passes.start ⟨{}, rfl⟩).call _).call _).call _).begin.call _

/-- A task for the user of the first identifier. -/
def ownDuty : Value :=
  .object [("ownerId", .text (Identifier.ofNat 1))]

/-- A title for a task. -/
def titling : Value :=
  .object [("title", .text "A")]

theorem keeps_shape_dutiesUnderWay :
    (storeHost duties).Passes State.IsNew (dutiesUnderWay ownDuty titling) ∧
      (dutiesUnderWay ownDuty titling).records "Task" = [[("_id", .text (Identifier.ofNat 2)),
        ("title", .text "A"), ("ownerId", .text (Identifier.ofNat 1))]] ∧
      KeepsShape duties (dutiesUnderWay ownDuty titling) := by
  have hpasses := dutiesUnderWay_passes ownDuty titling
  exact ⟨hpasses, rfl, keeps_shape duties _ hpasses⟩

/-- A task that is created without its owner lacks a key, and an update of a task may add one to it
that no task should have. -/
theorem duties_out_of_shape :
    let without : Document := [("_id", .text (Identifier.ofNat 2)), ("title", .text "A")]
    let noted : Document := [("_id", .text (Identifier.ofNat 2)), ("title", .null),
      ("ownerId", .text (Identifier.ofNat 1)), ("note", .text "A")]
    let noting : Value := .object [("note", .text "A")]
    duties.registry.get "Task" = .ok taskResource ∧
      (storeHost duties).Passes State.IsNew (dutiesUnderWay (.object []) titling) ∧
      (dutiesUnderWay (.object []) titling).records "Task" = [without] ∧
      ¬taskResource.Shapes without ∧
      (storeHost duties).Passes State.IsNew (dutiesUnderWay ownDuty noting) ∧
      (dutiesUnderWay ownDuty noting).records "Task" = [noted] ∧
      ¬taskResource.Shapes noted := by
  refine ⟨rfl, dutiesUnderWay_passes _ _, rfl, fun h => ?_, dutiesUnderWay_passes _ _, rfl,
    fun h => ?_⟩
  · exact absurd ((h.mem_iff "ownerId").mpr (by decide)) (by decide)
  · exact absurd ((h.mem_iff "note").mp (by decide)) (by decide)

end Store

end Docbase
