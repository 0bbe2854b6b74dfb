import Docbase.Proofs.Effects
import Docbase.Proofs.Resolution

/-! # Asking for a relation and including it

A relation of a record can be asked for, and it can be included when the record is found under its
identifier. Both follow it from the record as it is shown: what is asked for is what is put under
the name of the relation, a failure on the way is one of both, and a relation that is said to be
unknown is one whose include is skipped.
-/

namespace Docbase

open Effect Script

theorem StandsAlone.filter_eq {docs before after : List Document} {id : String} {doc : Document}
    (h : StandsAlone docs id before doc after) :
    docs.filter (Filter.equating idKey (.text id)).holds = [doc] := by
  have hnone {others : List Document} (hothers : ∀ other ∈ others, other ∈ before ++ after) :
      others.filter (Filter.equating idKey (.text id)).holds = [] := by
    refine List.filter_eq_nil_iff.mpr fun other hother => ?_
    rw [Filter.holds_text_iff]
    exact h.others other (hothers other hother)
  rw [h.docs_eq, List.filter_append, List.filter_cons_of_pos (Filter.holds_text_iff.mpr h.carried),
    hnone fun _ => List.mem_append_left _, hnone fun _ => List.mem_append_right _]
  rfl

/-- A document is all that is found under the text that identifies it. -/
theorem ToldApart.filter_text {docs : List Document} (h : ToldApart docs) {doc : Document}
    {id : String} (hdoc : doc ∈ docs) (hid : doc.get idKey = .text id) :
    docs.filter (Filter.equating idKey (.text id)).holds = [doc] := by
  obtain ⟨before, after, hdocs⟩ := List.append_of_mem hdoc
  exact (h.standsAlone hdocs hid).filter_eq

namespace Relations

variable {registry : Registry} {records : String → List Document} {resource name : String}

/-- A way of one name puts under the name what the relation leads to when it is asked for. -/
theorem embedded_single (hknows : registry.Knows resource name) (doc : Document) :
    embedded (loaded registry records) none [name] resource doc =
      (resolved registry records resource doc name).map fun related =>
        Keyed.put doc name related.toValue := by
  have hloaded : loaded registry records resource doc name ≠ .ok none :=
    (loaded_of_knows hknows doc).2
  rw [embedded, resolved]
  cases hfound : loaded registry records resource doc name with
  | error fault => rfl
  | ok found =>
      cases found with
      | none => exact absurd hfound hloaded
      | some found => rfl

end Relations

namespace Store

variable {store : Store} {s : State} {records : String → List Document} {resource name id : String}
  {doc : Document}

/-- The request for the record of an identifier, with a relation included. -/
def Request.including (id name : String) : Request where
  filter := byId (.text id)
  includes := .list [.text name]

/-- An include is skipped when a record is found with it, which is noted. -/
def Skips (store : Store) (s : State) (resource id name : String) : Prop :=
  ((store.findAll resource (.including id name)).apply s).2.around.journal =
    s.around.journal ++ [Relations.skipped name resource]

section

variable (h : s.Shows records) (hresource : store.registry.has resource = true)
  (hdoc : doc ∈ records resource) (hid : doc.get idKey = .text id)

include h hresource hdoc hid

omit hresource in
theorem apply_find_text : ∃ t : State, t.Shows records ∧ t.around = s.around ∧
    (onBackend (Connection.find resource { filter := Filter.equating idKey (.text id) })).apply s =
      (.ok [doc], t) := by
  cases h with
  | present generation hc =>
      have hfind := (Connection.find_yields resource (Filter.equating idKey (.text id)) _ hc).1
      rw [(hc.toldApart resource).filter_text hdoc hid, Connection.apply_find hc.ready.connected]
        at hfind
      refine ⟨_, .present generation (hc.touched resource), rfl, ?_⟩
      rw [apply_onBackend_present generation hc.ready.connected,
        Connection.apply_find hc.ready.connected]
      exact congrArg (·, _) hfind

/-- Finding a record with a relation included comes to embedding it in the record. -/
theorem apply_findAll_including (name : String) : ∃ t : State, t.Shows records ∧
    t.around = s.around ∧ (store.findAll resource (.including id name)).apply s =
      ((fun found => [found]) <$> onBackend (Relations.populate store.registry resource
        doc.formatted [⟨name, none⟩])).apply t := by
  obtain ⟨t, ht, haround, hfind⟩ := apply_find_text h hdoc hid
  obtain ⟨found, hget⟩ := Registry.has_iff_get.mp hresource
  have hrecord : (store.resource resource).apply s = (.ok found, s) := by
    rw [apply_resource store resource h.isConnected, hget]
  have hfilter : (Effect.ofExcept (Filter.read (byId (.text id))) : Operation Filter).apply s =
      (.ok (Filter.equating idKey (.text id)), s) := by
    rw [apply_ofExcept, read_byId_text]
  refine ⟨t, ht, haround, ?_⟩
  rw [findAll, apply_bind_of_ok hrecord]
  refine (apply_bind_of_ok hfilter).trans ?_
  refine (apply_bind_of_ok (apply_ofExcept (.ok []) s)).trans ?_
  refine (apply_bind_of_ok hfind).trans ?_
  refine (apply_bind_of_ok (apply_ofExcept (.ok [(⟨name, none⟩ : Include)]) t)).trans ?_
  rw [List.map_singleton, List.mapM_cons, List.mapM_nil, apply_map, apply_bind, apply_bind]
  rcases (onBackend (Relations.populate store.registry resource doc.formatted
    [⟨name, none⟩])).apply t with ⟨_ | _, _⟩ <;> rfl

/-- What is asked for is looked for from the record as it is shown. -/
theorem getRelated_eq (name : String) :
    ((store.getRelated resource (.text id) name).apply s).1 =
      (Relations.resolved store.registry records resource doc.formatted name).map
        Related.toValue := by
  have hjson : (doc.get idKey).IsJson := hid ▸ .text id
  have hfound : Yields (State.Shows records) (store.findById resource (.text id)) _ :=
    findById_yields store resource (.text id)
  rw [(getRelated_yields store resource (.text id) name hfound s h).1, ← (hfound s h).1, ← hid,
    findById_stored h hresource hdoc hjson]
  change store.relatedTo records resource name (some doc.formatted) = _
  rw [relatedTo]
  cases Relations.resolved store.registry records resource doc.formatted name <;> rfl

/-- A relation that is known is put under its name, and nothing is noted. -/
theorem findAll_of_knows (hdot : '.' ∉ name.toList) (hknows : store.registry.Knows resource name) :
    ((store.findAll resource (.including id name)).apply s).1 =
        (Relations.resolved store.registry records resource doc.formatted name).map
          (fun related => [Keyed.put doc.formatted name related.toValue]) ∧
      ((store.findAll resource (.including id name)).apply s).2.around = s.around := by
  obtain ⟨t, ht, haround, hrun⟩ := apply_findAll_including h hresource hdoc hid name
  have hsegments : Include.segments ⟨name, none⟩ = [name] := Include.segments_of_undotted hdot
  have hpopulated := populated_single store ht resource doc.formatted ⟨name, none⟩
  rw [leads_eq store ht, hsegments, Relations.embedded_single hknows] at hpopulated
  rw [hrun, apply_map]
  refine ⟨?_, (populate_of_knows ht hsegments hknows doc.formatted).trans haround⟩
  rw [populated] at hpopulated
  rw [hpopulated]
  cases Relations.resolved store.registry records resource doc.formatted name <;> rfl

/-- A relation that is not known is skipped: the record is given as it is shown, and the skip
noted. -/
theorem findAll_of_not_knows_single (hdot : '.' ∉ name.toList)
    (hknows : ¬store.registry.Knows resource name) :
    ((store.findAll resource (.including id name)).apply s).1 = .ok [doc.formatted] ∧
      store.Skips s resource id name := by
  obtain ⟨t, ht, haround, hrun⟩ := apply_findAll_including h hresource hdoc hid name
  have hunknown : ¬store.registry.Knows resource (Include.head ⟨name, none⟩) := by
    rw [Include.head, Include.segments_of_undotted hdot]
    exact hknows
  obtain ⟨hpopulated, hnoted⟩ := populate_of_not_knows ht hunknown doc.formatted
  rw [Skips, hrun, apply_map]
  refine ⟨?_, ?_⟩
  · rw [populated] at hpopulated
    rw [hpopulated]
    rfl
  · rw [← haround]
    exact hnoted

end

/-- Asking for a relation of a record and including it when the record is found agree. -/
structure AsksAsIncludes (store : Store) (s : State) (resource id name : String)
    (doc : Document) : Prop where
  /-- What is asked for is what the record that is found holds under the name, unless the include
  is skipped. -/
  answers_iff : ∀ value, ((store.getRelated resource (.text id) name).apply s).1 = .ok value ↔
    (∃ found, ((store.findAll resource (.including id name)).apply s).1 = .ok [found] ∧
      Keyed.get? found name = some value) ∧ ¬store.Skips s resource id name
  /-- The relation is said to be unknown just if the include is skipped. -/
  unknown_iff : ∀ other missing, ((store.getRelated resource (.text id) name).apply s).1 =
      .error (.unknownRelation other missing) ↔
    store.Skips s resource id name ∧ other = resource ∧ missing = name
  /-- Then the record is as it is found under its identifier. -/
  unchanged : store.Skips s resource id name →
    ((store.findAll resource (.including id name)).apply s).1 = .ok [doc.formatted] ∧
      ((store.findById resource (.text id)).apply s).1 = .ok (some doc.formatted)
  /-- Otherwise nothing is noted, and any other failure is one of both. -/
  followed : ¬store.Skips s resource id name →
    ((store.findAll resource (.including id name)).apply s).2.around = s.around ∧
      ∀ fault, ((store.getRelated resource (.text id) name).apply s).1 = .error fault ↔
        ((store.findAll resource (.including id name)).apply s).1 = .error fault

section

variable (h : s.Shows records) (hresource : store.registry.has resource = true)
  (hdoc : doc ∈ records resource) (hid : doc.get idKey = .text id) (hdot : '.' ∉ name.toList)

include h hresource hdoc hid hdot

theorem asksAsIncludes_of_knows (hknows : store.registry.Knows resource name) :
    AsksAsIncludes store s resource id name doc := by
  have hasked := getRelated_eq h hresource hdoc hid name
  obtain ⟨hfound, haround⟩ := findAll_of_knows h hresource hdoc hid hdot hknows
  have hskips : ¬store.Skips s resource id name := by
    rw [Skips, haround]
    simp
  constructor
  case answers_iff =>
    intro value
    rw [hasked, hfound, and_iff_left hskips, Validated.map_eq_ok]
    constructor
    · rintro ⟨related, hrelated, rfl⟩
      exact ⟨_, Validated.map_eq_ok.mpr ⟨related, hrelated, rfl⟩, Keyed.get?_put_self _ _ _⟩
    · rintro ⟨found, hmapped, hvalue⟩
      obtain ⟨related, hrelated, hput⟩ := Validated.map_eq_ok.mp hmapped
      obtain ⟨rfl, -⟩ := List.cons.inj hput
      rw [Keyed.get?_put_self] at hvalue
      exact ⟨related, hrelated, Option.some.inj hvalue⟩
  case unknown_iff =>
    intro other missing
    rw [hasked]
    refine iff_of_false (fun herror => ?_) fun hunknown => hskips hunknown.1
    exact (Relations.resolved_eq_unknownRelation_iff.mp (map_eq_error.mp herror)).1 hknows
  case unchanged => exact fun hskipped => absurd hskipped hskips
  case followed =>
    refine fun _ => ⟨haround, fun fault => ?_⟩
    rw [hasked, hfound]
    exact map_eq_error.trans map_eq_error.symm

theorem asksAsIncludes_of_not_knows (hknows : ¬store.registry.Knows resource name) :
    AsksAsIncludes store s resource id name doc := by
  have hasked := getRelated_eq h hresource hdoc hid name
  obtain ⟨hfound, hskips⟩ := findAll_of_not_knows_single h hresource hdoc hid hdot hknows
  have hunknown : Relations.resolved store.registry records resource doc.formatted name =
      .error (.unknownRelation resource name) :=
    Relations.resolved_eq_unknownRelation_iff.mpr ⟨hknows, rfl, rfl⟩
  rw [hunknown] at hasked
  constructor
  case answers_iff =>
    intro value
    rw [hasked]
    exact iff_of_false nofun fun hanswer => hanswer.2 hskips
  case unknown_iff =>
    intro other missing
    rw [hasked, and_iff_right hskips]
    constructor
    · rintro ⟨⟩
      exact ⟨rfl, rfl⟩
    · rintro ⟨rfl, rfl⟩
      rfl
  case unchanged =>
    refine fun _ => ⟨hfound, ?_⟩
    rw [← hid]
    exact findById_stored h hresource hdoc (hid ▸ .text id)
  case followed => exact fun hnot => absurd hskips hnot

end

/-- What is asked for by the name of a relation is what including it puts into the record, for known
and unknown relations alike. -/
theorem asks_as_includes (hpasses : (storeHost store).Passes State.IsNew s)
    (hresource : store.registry.has resource = true) (hdoc : doc ∈ s.records resource)
    (hid : doc.get idKey = .text id) (hdot : '.' ∉ name.toList) :
    AsksAsIncludes store s resource id name doc := by
  have h := shows_of_mem hpasses hdoc
  by_cases hknows : store.registry.Knows resource name
  · exact asksAsIncludes_of_knows h hresource hdoc hid hdot hknows
  · exact asksAsIncludes_of_not_knows h hresource hdoc hid hdot hknows

/-- The tags of a post are asked for and included alike. -/
theorem asks_as_includes_taggedBlog :
    (storeHost blog).Passes State.IsNew taggedBlog ∧ blog.registry.has "Post" = true ∧
      bare 1 ∈ taggedBlog.records "Post" ∧
      AsksAsIncludes blog taggedBlog "Post" (Identifier.ofNat 1) "tags" (bare 1) := by
  have hpasses : (storeHost blog).Passes State.IsNew taggedBlog :=
    .of_reachable taggedBlog_reachable
  have hpost : bare 1 ∈ taggedBlog.records "Post" := by simp [taggedBlog_records.1]
  exact ⟨hpasses, rfl, hpost, asks_as_includes hpasses rfl hpost rfl (by decide)⟩

end Store

end Docbase
