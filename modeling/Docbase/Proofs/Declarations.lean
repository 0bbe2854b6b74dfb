import Docbase.Proofs.ValidSchema
import Mathlib.Data.List.Induction
import Mathlib.Data.List.Nodup

/-! # What the registry finds

Of the relations that a resource declares under one name the registry finds the last, and of the
relations to one that have the same name for their reverse at the same target, the last in the order
of the schema. A relation is resolved if it is declared and leads to one, if it is such a reverse,
or if there is a resource named after its two ends.
-/

namespace Docbase

/-- Of entries whose keys may repeat, the last one under a key counts. -/
theorem Keyed.get?_ofList {α : Type} (entries : List (String × α)) (key : String) :
    Keyed.get? (Keyed.ofList entries) key =
      (entries.reverse.find? fun entry => entry.1 == key).map (·.2) := by
  induction entries using List.reverseRecOn with
  | nil => rfl
  | append_singleton entries entry ih =>
      have hput : Keyed.ofList (entries ++ [entry]) =
          (Keyed.ofList entries).put entry.1 entry.2 := by
        simp [Keyed.ofList, Keyed.merge, List.foldl_append]
      rw [hput, List.reverse_append, List.reverse_singleton, List.singleton_append,
        List.find?_cons]
      by_cases hkey : entry.1 = key
      · simp [hkey, Keyed.get?_put_self]
      · have hne : (entry.1 == key) = false := by simpa using hkey
        simp [hne, Keyed.get?_put_of_ne _ _ (Ne.symm hkey), ih]

/-- The last relation that a resource declares under a name. -/
def Resource.declared? (resource : Resource) (name : String) : Option Relation :=
  resource.relations.reverse.find? fun relation => relation.name == name

theorem Resource.exists_declared? {resource : Resource} {relation : Relation}
    (h : relation ∈ resource.relations) :
    ∃ last, resource.declared? relation.name = some last := by
  rw [← Option.isSome_iff_exists, Resource.declared?, List.find?_isSome]
  exact ⟨relation, List.mem_reverse.mpr h, beq_self_eq_true _⟩

namespace InverseIndex

variable {index : InverseIndex} {source target name : String} {relation : Relation}

/-- Whether a relation has a name for its reverse at a target. -/
def reverses (target name : String) (entry : String × Relation) : Bool :=
  entry.2.target == target && inverseName entry.1 entry.2 == name

theorem of_enter_target : (index.enter source relation).of relation.target =
    Keyed.put (index.of relation.target) (inverseName source relation)
      ⟨inverseName source relation, source, relation⟩ := by
  rw [enter, of, Keyed.get?_put_self]
  rfl

theorem of_enter_of_ne (h : relation.target ≠ target) :
    (index.enter source relation).of target = index.of target := by
  rw [enter, of, Keyed.get?_put_of_ne _ _ (Ne.symm h)]
  rfl

theorem get?_of_enter : Keyed.get? ((index.enter source relation).of target) name =
    if reverses target name (source, relation) then some ⟨name, source, relation⟩
    else Keyed.get? (index.of target) name := by
  by_cases htarget : relation.target = target
  · subst htarget
    rw [of_enter_target]
    by_cases hname : inverseName source relation = name
    · subst hname
      simp [reverses, Keyed.get?_put_self]
    · simp [reverses, hname, Keyed.get?_put_of_ne _ _ (Ne.symm hname)]
  · simp [reverses, htarget, of_enter_of_ne]

theorem get?_of_build (entries : List (String × Relation)) (index : InverseIndex)
    (journal : Journal) : Keyed.get? ((build entries index journal).1.of target) name =
      ((entries.reverse.find? (reverses target name)).map fun entry =>
        ⟨name, entry.1, entry.2⟩).or (Keyed.get? (index.of target) name) := by
  induction entries generalizing index journal with
  | nil => rfl
  | cons entry rest ih =>
      rw [build, ih, get?_of_enter, List.reverse_cons, List.find?_append, List.find?_singleton]
      cases rest.reverse.find? (reverses target name) with
      | some found => rfl
      | none => cases reverses target name entry <;> rfl

theorem mem_relationsOf {schema : Schema} {entry : String × Relation} :
    entry ∈ relationsOf schema ↔ ∃ resource ∈ schema.resources,
      entry.2 ∈ resource.singles ∧ entry.1 = resource.name := by
  obtain ⟨source, relation⟩ := entry
  simp [relationsOf, eq_comm]

end InverseIndex

namespace Registry

theorem inverse?_ofSchema (schema : Schema) (target name : String) :
    (ofSchema schema).inverse? target name =
      ((InverseIndex.relationsOf schema).reverse.find? (InverseIndex.reverses target name)).map
        fun entry => ⟨name, entry.1, entry.2⟩ := by
  refine (InverseIndex.get?_of_build _ _ _).trans ?_
  exact Option.or_none

theorem isSome_inverse?_iff {schema : Schema} {target name : String} :
    ((ofSchema schema).inverse? target name).isSome = true ↔ ∃ source ∈ schema.resources,
      ∃ relation ∈ source.singles,
        relation.target = target ∧ inverseName source.name relation = name := by
  rw [inverse?_ofSchema, Option.isSome_map, List.find?_isSome]
  simp only [List.mem_reverse, InverseIndex.mem_relationsOf, InverseIndex.reverses]
  constructor
  · rintro ⟨⟨_, relation⟩, ⟨source, hsource, hrelation, rfl⟩, hreverses⟩
    exact ⟨source, hsource, relation, hrelation, by simpa using hreverses⟩
  · rintro ⟨source, hsource, relation, hrelation, hreverses⟩
    exact ⟨(source.name, relation), ⟨source, hsource, hrelation, rfl⟩, by simpa using hreverses⟩

/-- The registry knows a relation of a resource: it is declared and leads to one, or it is the
reverse of one, or there is a junction for it. -/
inductive Knows (registry : Registry) (resource name : String) : Prop
  | one {relation : Relation} (hrelation : registry.relation? resource name = some relation)
      (hone : relation.cardinality = .one)
  | inverse (h : (registry.inverse? resource name).isSome = true)
  | junction (h : (registry.junction? resource name).isSome = true)

end Registry

/-- A relation that a resource declares is resolved: it leads to one, or it has the name of the
reverse of a relation to one that leads to the resource, or there is a resource named after the two
ends, in either order. -/
inductive Schema.Resolves (schema : Schema) (resource : Resource) (name : String) : Prop
  | one {relation : Relation} (hdeclared : resource.declared? name = some relation)
      (hone : relation.cardinality = .one)
  | inverse {source : Resource} {relation : Relation} (hsource : source ∈ schema.resources)
      (hrelation : relation ∈ source.singles) (htarget : relation.target = resource.name)
      (hname : inverseName source.name relation = name)
  | junction {relation : Relation} (hdeclared : resource.declared? name = some relation)
      (hjunction : resource.name ++ relation.target ∈ schema.resourceNames ∨
        relation.target ++ resource.name ∈ schema.resourceNames)

namespace Registry

section

variable {schema : Schema} (hschema : schema.IsValid) {resource : Resource}
  (hresource : resource ∈ schema.resources)

include hschema hresource

theorem find?_of_mem : (ofSchema schema).find? resource.name = some resource := by
  have hhas : (ofSchema schema).has resource.name = true :=
    has_iff.mpr (List.mem_map_of_mem hresource)
  obtain ⟨found, hfound⟩ := Option.isSome_iff_exists.mp hhas
  have hname : found.name = resource.name := by simpa using List.find?_some hfound
  rw [hfound, List.inj_on_of_nodup_map hschema.distinct (List.mem_of_find?_eq_some hfound)
    hresource hname]

theorem relation?_eq_declared? (name : String) :
    (ofSchema schema).relation? resource.name name = resource.declared? name := by
  rw [relation?, relations, find?_of_mem hschema hresource]
  dsimp only
  rw [Keyed.get?_ofList, ← List.map_reverse, List.find?_map, Option.map_map]
  exact Option.map_id'

theorem isSome_junction?_iff {name : String} {relation : Relation}
    (hdeclared : resource.declared? name = some relation) (hmany : relation.cardinality = .many) :
    ((ofSchema schema).junction? resource.name name).isSome = true ↔
      resource.name ++ relation.target ∈ schema.resourceNames ∨
        relation.target ++ resource.name ∈ schema.resourceNames := by
  have hrelation := (relation?_eq_declared? hschema hresource name).trans hdeclared
  have htarget : (ofSchema schema).manyTarget resource.name name = relation.target := by
    rw [manyTarget, hrelation]
    exact if_pos hmany
  rw [junction?, htarget, if_pos (has_target hschema hrelation)]
  simp [List.find?_isSome, has_iff, resourceNames, ofSchema, build]

/-- The registry knows a declared relation exactly if the schema resolves it. -/
theorem knows_iff_resolves {name : String} {relation : Relation}
    (hdeclared : resource.declared? name = some relation) :
    (ofSchema schema).Knows resource.name name ↔ schema.Resolves resource name := by
  have hrelation := (relation?_eq_declared? hschema hresource name).trans hdeclared
  constructor
  · intro h
    cases h with
    | one hfound hone =>
        exact .one ((relation?_eq_declared? hschema hresource name).symm.trans hfound) hone
    | inverse hinverse =>
        obtain ⟨source, hsource, other, hother, htarget, hname⟩ := isSome_inverse?_iff.mp hinverse
        exact .inverse hsource hother htarget hname
    | junction hjunction =>
        cases hcardinality : relation.cardinality with
        | one => exact .one hdeclared hcardinality
        | many =>
            refine .junction hdeclared ?_
            exact (isSome_junction?_iff hschema hresource hdeclared hcardinality).mp hjunction
  · intro h
    cases h with
    | one hfound hone =>
        exact .one ((relation?_eq_declared? hschema hresource name).trans hfound) hone
    | inverse hsource hother htarget hname =>
        exact .inverse (isSome_inverse?_iff.mpr ⟨_, hsource, _, hother, htarget, hname⟩)
    | junction hfound hjunction =>
        obtain rfl := Option.some.inj (hdeclared.symm.trans hfound)
        cases hcardinality : relation.cardinality with
        | one => exact .one hrelation hcardinality
        | many =>
            refine .junction ?_
            exact (isSome_junction?_iff hschema hresource hdeclared hcardinality).mpr hjunction

end

end Registry

end Docbase
