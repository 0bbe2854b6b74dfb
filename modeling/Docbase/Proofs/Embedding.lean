import Docbase.Proofs.Related
import Docbase.Proofs.ValidSchema

/-! # What includes embed

What includes make of a document is determined by what its relations lead to among the records. A
longer way goes through the documents that stand under its first name, and puts each of them back
with what the rest of the way embeds in it.
-/

namespace Docbase

open Effect Script

/-! ## Outcomes that are no faults -/

/-- There is an outcome, and no fault. -/
def Answered {α : Type} (outcome : Except Fault α) : Prop :=
  ∃ value, outcome = .ok value

namespace Answered

variable {α β : Type} {outcome : Except Fault α}

theorem bind {next : α → Except Fault β} (h : Answered outcome)
    (hnext : ∀ value, outcome = .ok value → Answered (next value)) :
    Answered (outcome >>= next) := by
  obtain ⟨value, rfl⟩ := h
  exact hnext value rfl

theorem map (f : α → β) (h : Answered outcome) : Answered (outcome.map f) := by
  obtain ⟨value, rfl⟩ := h
  exact ⟨f value, rfl⟩

theorem mapM {f : β → Except Fault α} {items : List β} (h : ∀ item ∈ items, Answered (f item)) :
    Answered (items.mapM f) := by
  induction items with
  | nil => exact ⟨[], rfl⟩
  | cons item rest ih =>
      rw [List.mapM_cons]
      refine (h item List.mem_cons_self).bind fun result _ => ?_
      refine (ih fun other hother => h other (List.mem_cons_of_mem _ hother)).bind
        fun results _ => ?_
      exact ⟨result :: results, rfl⟩

theorem foldlM {f : α → β → Except Fault α} {items : List β}
    (h : ∀ value, ∀ item ∈ items, Answered (f value item)) (start : α) :
    Answered (items.foldlM f start) := by
  induction items generalizing start with
  | nil => exact ⟨start, rfl⟩
  | cons item rest ih =>
      rw [List.foldlM_cons]
      refine (h start item List.mem_cons_self).bind fun value _ => ?_
      exact ih (fun value other hother => h value other (List.mem_cons_of_mem _ hother)) value

end Answered

namespace Include

variable {spec : Include} {path : String}

theorem join_splitOn (path : List Char) :
    join ((path.splitOn '.').map String.ofList) = String.ofList path := by
  have hdot : ".".toList = ['.'] := rfl
  apply String.toList_injective
  rw [join, String.toList_intercalate, hdot, List.map_map]
  simp [Function.comp_def, List.intercalate_splitOn]

theorem exists_segments_eq (spec : Include) : ∃ rest, spec.segments = spec.head :: rest := by
  cases hsegments : spec.segments with
  | nil => simp [segments, List.splitOn_ne_nil] at hsegments
  | cons name rest => exact ⟨rest, by rw [head, hsegments, List.headD_cons]⟩

/-- The rest of a way is made of the names that follow its first one. -/
theorem segments_eq_cons (hrest : spec.rest? = some path) (select : Option (List Value)) :
    spec.segments = spec.head :: segments ⟨path, select⟩ := by
  by_cases hdot : '.' ∈ spec.path.toList
  · obtain ⟨first, rest, hpath, hfirst⟩ := List.eq_append_cons_of_mem hdot
    have hsegments : spec.segments =
        String.ofList first :: (rest.splitOn '.').map String.ofList := by
      rw [segments, hpath, List.splitOn_append_cons_self_of_not_mem hfirst, List.map_cons]
    have hjoin := join_splitOn rest
    rw [rest?, hsegments] at hrest
    cases hparts : (rest.splitOn '.').map String.ofList with
    | nil => simp [List.splitOn_ne_nil] at hparts
    | cons next more =>
        rw [hparts] at hrest hjoin
        rw [head, hsegments, ← Option.some.inj hrest, hjoin, segments]
        simp
  · -- A way of one name has no rest.
    rw [rest?, segments, List.splitOn_eq_singleton hdot] at hrest
    cases hrest

end Include

/-- The documents among related ones. -/
def Related.docs : Related → List Document
  | one doc => doc.toList
  | many docs => docs

namespace Relations

/-- What a relation of a document of a resource leads to, if there is such a relation. -/
abbrev Load := String → Document → String → Except Fault (Option (String × Related))

/-- What relations lead to among given records. -/
def loaded (registry : Registry) (records : String → List Document) : Load :=
  fun resource doc name =>
    match (registry.relation? resource name).filter (·.cardinality = .one),
      registry.inverse? resource name, registry.junction? resource name with
    | some relation, _, _ =>
      (named (records relation.target) (doc.get relation.keyField)).map fun found =>
        some (relation.target, .one found)
    | none, some inverse, _ =>
      (Filter.read (.object [(inverse.keyField, doc.identifier)])).map fun filter =>
        some (inverse.source, .many (((records inverse.source).filter filter.holds).map
          Document.formatted))
    | none, none, some junction => do
      let filter ← Filter.read (.object [(junction.localKey, doc.identifier)])
      let found ← ((records junction.junction).filter filter.holds).mapM fun row =>
        named (records junction.target) (Document.get row.formatted junction.foreignKey)
      return some (junction.target, .many found.reduceOption)
    | none, none, none => .ok none

/-- Makes something of the document that a value describes. -/
def within (f : Document → Except Fault Document) (item : Value) : Except Fault Value := do
  return .object (← f (← Document.ofValue item))

/-- Makes something of every document in a value, which is nothing, a list or a document. -/
def descend (f : Document → Except Fault Document) : Value → Except Fault Value
  | .null => .ok .null
  | .list items => .list <$> items.mapM (within f)
  | item => within f item

/-- What a longer way goes on from: what the document holds under its first name, and only if that
is nothing, what the relation leads to. -/
def present (doc : Document) (name : String) (related : Related) : Value :=
  if (doc.get name).isNull then related.toValue else doc.get name

/-- A document with what a way embeds in it. -/
def embedded (load : Load) (select : Option (List Value)) :
    List String → String → Document → Except Fault Document
  | [], _, doc => .ok doc
  | [name], resource, doc => do
    match ← load resource doc name with
    | none => .ok doc
    | some (_, related) => return Keyed.put doc name (← related.project select).toValue
  | name :: next :: more, resource, doc => do
    match ← load resource doc name with
    | none => .ok doc
    | some (target, related) =>
      let value ← descend (embedded load select (next :: more) target) (present doc name related)
      return Keyed.put doc name value

/-! ## Documents in a value -/

section

variable {f g : Document → Except Fault Document} {v w : Value}

@[simp]
theorem within_object (f : Document → Except Fault Document) (doc : Document) :
    within f (.object doc) = (f doc).map Value.object := by
  change (do return Value.object (← f doc)) = _
  cases f doc <;> rfl

@[simp]
theorem descend_object (f : Document → Except Fault Document) (doc : Document) :
    descend f (.object doc) = (f doc).map Value.object :=
  within_object f doc

end

/-! ## What is embedded is what the records determine -/

section

variable {records : String → List Document} (registry : Registry)

theorem load?_yields (resource : String) (doc : Document) (name : String) :
    Yields (Connection.Shows records) (load? registry resource doc name)
      (loaded registry records resource doc name) := by
  cases hdeclared : (registry.relation? resource name).filter (·.cardinality = .one) with
  | some relation =>
      obtain ⟨hrelation, hone⟩ := Option.filter_eq_some_iff.mp hdeclared
      refine (load?_one_yields hrelation (by simpa using hone) doc).of_eq ?_
      rw [loaded, hdeclared]
  | none =>
      have hnotOne : ∀ relation, registry.relation? resource name = some relation →
          relation.cardinality ≠ .one := by
        simpa [Option.filter_eq_none_iff] using hdeclared
      cases hinverse : registry.inverse? resource name with
      | some inverse =>
          refine (load?_inverse_yields hnotOne hinverse doc).of_eq ?_
          rw [loaded, hdeclared, hinverse]
      | none =>
          cases hjunction : registry.junction? resource name with
          | some junction =>
              refine (load?_junction_yields ⟨hnotOne, hinverse, hjunction⟩ doc).of_eq ?_
              rw [loaded, hdeclared, hinverse, hjunction]
          | none =>
              rw [load?, loaded, hdeclared, hinverse, hjunction]
              exact Yields.pure none

theorem noteSkipped_yields (path resource : String) :
    Yields (Connection.Shows records) (noteSkipped path resource) (.ok ()) :=
  fun _ h => ⟨rfl, h.ready, h.documents⟩

theorem embed_yields (select : Option (List Value)) (segments : List String) (resource : String)
    (doc : Document) :
    Yields (Connection.Shows records) (embed registry select segments resource doc)
      (embedded (loaded registry records) select segments resource doc) := by
  induction segments generalizing resource doc with
  | nil => exact Yields.pure doc
  | cons name rest ih =>
      cases rest with
      | nil =>
          rw [embed, embedded]
          refine (load?_yields registry resource doc name).bind fun found _ => ?_
          cases found with
          | none => exact (noteSkipped_yields name resource).bind_ok (Yields.pure doc)
          | some found =>
              exact (Yields.ofExcept _).bind fun related _ => Yields.pure _
      | cons next more =>
          rw [embed, embedded]
          refine (load?_yields registry resource doc name).bind fun found _ => ?_
          cases found with
          | none => exact (noteSkipped_yields _ resource).bind_ok (Yields.pure doc)
          | some found =>
              obtain ⟨target, related⟩ := found
              have hwithin (item : Value) : Yields (Connection.Shows records)
                  (do
                    let inner ← Effect.ofExcept (Document.ofValue item)
                    return Value.object (← embed registry select (next :: more) target inner))
                  (within (embedded (loaded registry records) select (next :: more) target)
                    item) :=
                (Yields.ofExcept _).bind fun inner _ => (ih target inner).bind fun _ _ =>
                  Yields.pure _
              have hlist (items : List Value) :=
                (Yields.mapM hwithin items).bind fun values _ =>
                  Yields.pure (Keyed.put doc name (.list values))
              have hitem (item : Value) :=
                (hwithin item).bind fun value _ => Yields.pure (Keyed.put doc name value)
              dsimp only
              rw [← present]
              cases present doc name related with
              | null => exact Yields.pure _
              | list items =>
                  refine (hlist items).of_eq ?_
                  rw [descend]
                  cases items.mapM (within (embedded (loaded registry records) select
                    (next :: more) target)) <;> rfl
              | _ => exact hitem _

theorem populate_yields (resource : String) (doc : Document) (includes : List Include) :
    Yields (Connection.Shows records) (populate registry resource doc includes)
      (includes.foldlM (fun doc spec => embedded (loaded registry records) spec.select
        spec.segments resource doc) doc) :=
  Yields.foldlM (fun doc spec => embed_yields registry spec.select spec.segments resource doc)
    doc includes

end

end Relations

end Docbase
