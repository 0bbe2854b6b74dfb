import Docbase.Proofs.Filing
import Docbase.Schema.Reader

/-! # Valid schemas

A schema that has been read names no two resources alike, and every relation of it leads to a
resource. So does every relation that is looked up in its registry.
-/

namespace Docbase

namespace Validated

variable {ε ε' α β : Type}

theorem bind_eq_ok {result : Except ε α} {next : α → Except ε β} {b : β} :
    (result >>= next) = .ok b ↔ ∃ a, result = .ok a ∧ next a = .ok b := by
  cases result <;> simp [bind, Except.bind]

theorem map_eq_ok {result : Except ε α} {f : α → β} {b : β} :
    result.map f = .ok b ↔ ∃ a, result = .ok a ∧ f a = b := by
  cases result <;> simp [Except.map]

theorem mapError_eq_ok {result : Except ε α} {f : ε → ε'} {a : α} :
    result.mapError f = .ok a ↔ result = .ok a := by
  cases result <;> simp [Except.mapError]

theorem plus_eq_ok {next : Validated α} {read : Validated (α → β)} {b : β} :
    plus next read = .ok b ↔ ∃ f a, read = .ok f ∧ next = .ok a ∧ f a = b := by
  cases read <;> cases next <;> simp [plus]

theorem under_eq_ok {step : Step} {result : Validated α} {a : α} :
    under step result = .ok a ↔ result = .ok a :=
  mapError_eq_ok

/-- A part that has been read is the one taken for an absent part, or read out of some value. -/
theorem part_eq_ok {fields : Document} {keys : List String} {absent a : α}
    {read : Value → Validated α} (h : part fields keys absent read = .ok a) :
    a = absent ∨ ∃ value, read value = .ok a := by
  unfold part at h
  split at h
  next key value _ => exact .inr ⟨value, under_eq_ok.mp h⟩
  next => exact .inl (Except.ok.inj h).symm

end Validated

namespace Schema

open Validated

/-- What is asked of a schema: no two resources have one name, and every relation leads to a
resource. -/
structure IsValid (schema : Schema) : Prop where
  distinct : schema.resourceNames.Nodup
  closed : ∀ resource ∈ schema.resources, ∀ relation ∈ resource.relations,
    relation.target ∈ schema.resourceNames

theorem repeatedName?_eq_none_iff {seen : List String} {resources : List Resource} :
    repeatedName? seen resources = none ↔
      (resources.map (·.name)).Nodup ∧ ∀ resource ∈ resources, resource.name ∉ seen := by
  induction resources generalizing seen with
  | nil => simp [repeatedName?]
  | cons resource rest ih =>
      rw [repeatedName?]
      split
      next hseen => simp [hseen]
      next hseen =>
        rw [ih, List.map_cons, List.nodup_cons, List.forall_mem_cons]
        -- That no later resource has the name is said of the names there, and of those seen here.
        have hlater : (∀ other ∈ rest, other.name ∉ resource.name :: seen) ↔
            resource.name ∉ rest.map (·.name) ∧ ∀ other ∈ rest, other.name ∉ seen := by
          simp only [List.mem_cons, not_or, List.mem_map, not_exists, not_and, forall_and]
        rw [hlater]
        tauto

theorem strayRelation?_eq_none_iff {names : List String} {resources : List Resource} :
    strayRelation? names resources = none ↔
      ∀ resource ∈ resources, ∀ relation ∈ resource.relations, relation.target ∈ names := by
  simp [strayRelation?]

theorem distinct_eq_ok {resources read : List Resource} (h : distinct resources = .ok read) :
    (read.map (·.name)).Nodup := by
  unfold distinct at h
  split at h
  next => cases h
  next hnone =>
    obtain rfl := Except.ok.inj h
    exact (repeatedName?_eq_none_iff.mp hnone).1

theorem nodup_of_readResources {value : Value} {resources : List Resource}
    (h : readResources value = .ok resources) : (resources.map (·.name)).Nodup := by
  obtain ⟨listed, -, hdistinct⟩ := bind_eq_ok.mp h
  exact distinct_eq_ok hdistinct

theorem isValid_of_closed {schema read : Schema} (hnames : schema.resourceNames.Nodup)
    (h : Schema.closed schema = .ok read) : read.IsValid := by
  unfold Schema.closed at h
  split at h
  next => cases h
  next hnone =>
    obtain rfl := Except.ok.inj h
    exact ⟨hnames, strayRelation?_eq_none_iff.mp hnone⟩

theorem isValid_of_read {fields : Document} {schema : Schema} (h : read fields = .ok schema) :
    schema.IsValid := by
  obtain ⟨parts, hparts, hclosed⟩ := bind_eq_ok.mp h
  obtain ⟨make, resources, hmake, hresources, rfl⟩ := plus_eq_ok.mp hparts
  obtain ⟨make', version, hmake', -, rfl⟩ := plus_eq_ok.mp hmake
  obtain ⟨make'', name, hmk, -, rfl⟩ := plus_eq_ok.mp hmake'
  obtain rfl := Except.ok.inj hmk
  refine isValid_of_closed ?_ hclosed
  -- The reader takes a schema without the part for one without resources.
  rcases part_eq_ok hresources with rfl | ⟨value, hread⟩
  · exact List.nodup_nil
  · exact nodup_of_readResources hread

/-- A schema that is read is valid. -/
theorem isValid_of_ofValue {value : Value} {schema : Schema} (h : ofValue value = .ok schema) :
    schema.IsValid := by
  unfold ofValue at h
  split at h
  next =>
    obtain ⟨listed, -, hmapped⟩ := bind_eq_ok.mp h
    exact isValid_of_read (mapError_eq_ok.mp hmapped)
  next => cases h

end Schema

namespace Registry

theorem has_iff {registry : Registry} {name : String} :
    registry.has name = true ↔ name ∈ registry.resourceNames := by
  simp [has, find?, resourceNames, Schema.resourceNames, List.find?_isSome]

theorem has_iff_get {registry : Registry} {name : String} :
    registry.has name = true ↔ ∃ resource, registry.get name = .ok resource := by
  unfold has get
  cases registry.find? name <;> simp

theorem name_of_get {registry : Registry} {name : String} {resource : Resource}
    (h : registry.get name = .ok resource) : resource.name = name := by
  unfold get at h
  split at h
  next found hfound =>
    cases h
    simpa using List.find?_some hfound
  next => cases h

theorem has_of_relation? {registry : Registry} {resource name : String} {relation : Relation}
    (h : registry.relation? resource name = some relation) : registry.has resource = true := by
  unfold relation? relations at h
  unfold has
  cases hfound : registry.find? resource with
  | none => rw [hfound] at h; cases h
  | some found => rfl

/-- A relation that is found is declared under its name. -/
theorem mem_of_relation? {registry : Registry} {resource name : String} {relation : Relation}
    (h : registry.relation? resource name = some relation) :
    ∃ found ∈ registry.schema.resources, relation ∈ found.relations ∧ relation.name = name := by
  unfold relation? relations at h
  split at h
  next found hfound =>
    obtain ⟨declared, hdeclared, heq⟩ := List.mem_map.mp (Keyed.mem_of_get?_ofList h)
    cases heq
    exact ⟨found, List.mem_of_find?_eq_some hfound, hdeclared, rfl⟩
  next => cases h

/-- A relation of a valid schema leads to a resource. -/
theorem has_target {schema : Schema} (hschema : schema.IsValid) {resource name : String}
    {relation : Relation}
    (h : (Registry.ofSchema schema).relation? resource name = some relation) :
    (Registry.ofSchema schema).has relation.target = true := by
  obtain ⟨found, hfound, hmem, -⟩ := mem_of_relation? h
  exact has_iff.mpr (hschema.closed found hfound relation hmem)

end Registry

end Docbase
