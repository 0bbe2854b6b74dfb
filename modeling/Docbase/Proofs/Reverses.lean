import Docbase.Proofs.Declarations

/-! # The index of reverse relations

The relations to one are entered in the order of the schema, each under the name of its reverse at
the resource it leads to. Of relations with one name for their reverse at one target the last
counts, but the name keeps the place that the first of them gave it, and each but the first is
noted.
-/

namespace Docbase

/-- A relation of a resource gives its reverse a name: the one declared, unless none or the empty
one is, and then the plural of the resource in small letters. -/
inductive Relation.CallsReverse (source : String) (relation : Relation) : String → Prop
  | declared {name : String} (h : relation.inverse = some name) (hname : name ≠ "") :
      CallsReverse source relation name
  | derived (h : ∀ name, relation.inverse = some name → name = "") :
      CallsReverse source relation (Text.lower (Inflection.plural (Text.lower source)))

theorem defaultInverseName_eq (source : String) :
    defaultInverseName source = Text.lower (Inflection.plural (Text.lower source)) := rfl

theorem inverseName_eq_iff {source name : String} {relation : Relation} :
    inverseName source relation = name ↔ relation.CallsReverse source name := by
  unfold inverseName Relation.nonempty?
  rw [defaultInverseName_eq]
  constructor
  · rintro rfl
    cases hinverse : relation.inverse with
    | none => exact .derived (by simp [hinverse])
    | some declared =>
        by_cases hdeclared : declared = ""
        · rw [hdeclared]
          exact .derived (by simp [hinverse, hdeclared])
        · rw [Option.filter_some_pos (by simpa using hdeclared)]
          exact .declared hinverse hdeclared
  · rintro (⟨hinverse, hname⟩ | hempty)
    · rw [hinverse, Option.filter_some_pos (by simpa using hname)]
      rfl
    · cases hinverse : relation.inverse with
      | none => rfl
      | some declared =>
          rw [hempty declared hinverse]
          rfl

namespace InverseIndex

/-- The name of the reverse of a relation to one that stands with its source. -/
def nameOf (entry : String × Relation) : String :=
  inverseName entry.1 entry.2

/-- The names that relations have for their reverses at a target. -/
def namesAt (target : String) (entries : List (String × Relation)) : List String :=
  (entries.filter fun entry => entry.2.target == target).map nameOf

/-- The relations that come after another one with the same name for its reverse at the same
target. -/
def redefining (entries : List (String × Relation)) : List (String × Relation) :=
  (entries.zipIdx.filter fun entry =>
    (entries.take entry.2).any (reverses entry.1.2.target (nameOf entry.1))).map (·.1)

theorem reverses_iff {target name : String} {entry : String × Relation} :
    reverses target name entry = true ↔
      entry.2.target = target ∧ entry.2.CallsReverse entry.1 name := by
  rw [reverses, Bool.and_eq_true, beq_iff_eq, beq_iff_eq, inverseName_eq_iff]

theorem mem_namesAt {target name : String} {entries : List (String × Relation)} :
    name ∈ namesAt target entries ↔ entries.any (reverses target name) = true := by
  simp [namesAt, reverses, nameOf, and_assoc]

theorem namesAt_append_singleton (target : String) (entries : List (String × Relation))
    (entry : String × Relation) : namesAt target (entries ++ [entry]) =
      namesAt target entries ++ if entry.2.target = target then [nameOf entry] else [] := by
  by_cases htarget : entry.2.target = target <;> simp [namesAt, htarget]

theorem redefining_append_singleton (entries : List (String × Relation))
    (entry : String × Relation) : redefining (entries ++ [entry]) = redefining entries ++
      if nameOf entry ∈ namesAt entry.2.target entries then [entry] else [] := by
  have hbefore : (entries.zipIdx.filter fun found =>
      ((entries ++ [entry]).take found.2).any (reverses found.1.2.target (nameOf found.1))) =
        entries.zipIdx.filter fun found =>
          (entries.take found.2).any (reverses found.1.2.target (nameOf found.1)) := by
    refine List.filter_congr fun found hfound => ?_
    have hplace : found.2 < entries.length := by
      simpa using (List.mem_zipIdx hfound).2.1
    rw [List.take_append_of_le_length (Nat.le_of_lt hplace)]
  rw [redefining, List.zipIdx_append, List.filter_append, List.map_append, hbefore, redefining]
  simp only [mem_namesAt]
  split
  next hany => simp [hany]
  next hany => simp [hany]

theorem eraseDups_append_singleton (names : List String) (name : String) :
    (names ++ [name]).eraseDups =
      names.eraseDups ++ if name ∈ names then [] else [name] := by
  rw [List.eraseDups_append]
  by_cases hname : name ∈ names <;> simp [List.removeAll, hname, List.eraseDups_cons]

theorem build_append (entries more : List (String × Relation)) (index : InverseIndex)
    (journal : Journal) : build (entries ++ more) index journal =
      build more (build entries index journal).1 (build entries index journal).2 := by
  induction entries generalizing index journal with
  | nil => rfl
  | cons entry rest ih => exact ih _ _

theorem keys_of_enter (index : InverseIndex) (target : String) (entry : String × Relation) :
    Keyed.keys ((index.enter entry.1 entry.2).of target) = Keyed.keys (index.of target) ++
      if entry.2.target = target ∧ nameOf entry ∉ Keyed.keys (index.of target) then [nameOf entry]
      else [] := by
  by_cases htarget : entry.2.target = target
  · subst htarget
    rw [of_enter_target]
    change Keyed.keys (Keyed.put _ (nameOf entry) _) = _
    by_cases hname : nameOf entry ∈ Keyed.keys (index.of entry.2.target)
    · simp [hname]
    · simp [hname, Keyed.keys_put_of_not_mem]
  · simp [htarget, of_enter_of_ne]

/-- The names at a target stand in the order in which they first come. -/
theorem keys_of_build (target : String) (entries : List (String × Relation)) :
    Keyed.keys ((build entries [] []).1.of target) = (namesAt target entries).eraseDups := by
  induction entries using List.reverseRecOn with
  | nil => rfl
  | append_singleton entries entry ih =>
      have hbuild : (build (entries ++ [entry]) [] []).1 =
          (build entries [] []).1.enter entry.1 entry.2 := by
        rw [build_append]
        rfl
      rw [hbuild, keys_of_enter, ih, namesAt_append_singleton]
      by_cases htarget : entry.2.target = target
      · rw [if_pos htarget, eraseDups_append_singleton]
        by_cases hname : nameOf entry ∈ namesAt target entries <;> simp [htarget, hname]
      · simp [htarget]

theorem redefines_build (entries : List (String × Relation)) (entry : String × Relation) :
    (build entries [] []).1.redefines entry.1 entry.2 = true ↔
      nameOf entry ∈ namesAt entry.2.target entries := by
  rw [← List.mem_eraseDups, ← keys_of_build, redefines, Keyed.has, Option.isSome_iff_ne_none, Ne,
    Keyed.get?_eq_none_iff, not_not]
  rfl

theorem journal_of_build (entries : List (String × Relation)) :
    (build entries [] []).2 = (redefining entries).map fun entry => notice entry.1 entry.2 := by
  induction entries using List.reverseRecOn with
  | nil => rfl
  | append_singleton entries entry ih =>
      have hbuild : (build (entries ++ [entry]) [] []).2 = (build entries [] []).2 ++
          if (build entries [] []).1.redefines entry.1 entry.2 then [notice entry.1 entry.2]
          else [] := by
        rw [build_append, build, build]
        split <;> simp
      rw [hbuild, ih, redefining_append_singleton, List.map_append]
      simp only [redefines_build]
      split <;> rfl

end InverseIndex

namespace Registry

open InverseIndex

/-- What the reverse relations of a registry, and the notes on them, are to those to one of its
schema. -/
structure IndexesReverses (schema : Schema) (registry : Registry) (journal : Journal) : Prop where
  /-- The reverse of a name at a target is that of the last relation which leads to the target and
  gives its reverse the name. -/
  last : ∀ target name inverse, registry.inverse? target name = some inverse ↔
    inverse.name = name ∧ ∃ before after,
      relationsOf schema = before ++ (inverse.source, inverse.relation) :: after ∧
        inverse.relation.target = target ∧ inverse.relation.CallsReverse inverse.source name ∧
        ∀ other ∈ after, ¬(other.2.target = target ∧ other.2.CallsReverse other.1 name)
  /-- There is none if there is no such relation. -/
  absent : ∀ target name, registry.inverse? target name = none ↔
    ∀ resource ∈ schema.resources, ∀ relation ∈ resource.relations, relation.cardinality = .one →
      relation.target = target → ¬relation.CallsReverse resource.name name
  /-- A reverse relation is that of a relation to one that its source declares. -/
  declared : ∀ target name inverse, registry.inverse? target name = some inverse →
    ∃ resource ∈ schema.resources, resource.name = inverse.source ∧
      inverse.relation ∈ resource.relations ∧ inverse.relation.cardinality = .one
  /-- The names at a target are listed as they first come. -/
  listed : ∀ target, Keyed.keys (registry.inversesOf target) =
    (namesAt target (relationsOf schema)).eraseDups
  /-- The relations whose reverse takes the place of an earlier one are noted, each once. -/
  noted : journal = (redefining (relationsOf schema)).map fun entry => notice entry.1 entry.2

theorem inverse?_eq_some_iff {schema : Schema} {target name : String} {inverse : Inverse} :
    (ofSchema schema).inverse? target name = some inverse ↔
      inverse.name = name ∧ ∃ before after,
        relationsOf schema = before ++ (inverse.source, inverse.relation) :: after ∧
          inverse.relation.target = target ∧ inverse.relation.CallsReverse inverse.source name ∧
          ∀ other ∈ after, ¬(other.2.target = target ∧ other.2.CallsReverse other.1 name) := by
  rw [inverse?_ofSchema, Option.map_eq_some_iff]
  constructor
  · rintro ⟨entry, hentry, rfl⟩
    obtain ⟨hreverses, later, earlier, hsplit, hlater⟩ := List.find?_eq_some_iff_append.mp hentry
    obtain ⟨htarget, hname⟩ := reverses_iff.mp hreverses
    refine ⟨rfl, earlier.reverse, later.reverse, ?_, htarget, hname, fun other hother => ?_⟩
    · rw [← List.reverse_reverse (relationsOf schema), hsplit]
      simp
    · rw [← reverses_iff]
      simpa using hlater other (List.mem_reverse.mp hother)
  · rintro ⟨rfl, before, after, hsplit, htarget, hname, hafter⟩
    refine ⟨(inverse.source, inverse.relation), ?_, rfl⟩
    refine List.find?_eq_some_iff_append.mpr
      ⟨reverses_iff.mpr ⟨htarget, hname⟩, after.reverse, before.reverse, ?_,
        fun other hother => ?_⟩
    · rw [hsplit]
      simp
    · have hother := hafter other (List.mem_reverse.mp hother)
      rw [← reverses_iff] at hother
      simpa using hother

/-- The index of a schema has the reverses of its relations to one, the last of each name, and
nothing else. -/
theorem indexes_reverses (schema : Schema) :
    IndexesReverses schema (ofSchema schema) (build schema).2 := by
  constructor
  case last => exact fun _ _ _ => inverse?_eq_some_iff
  case absent =>
    intro target name
    rw [← Option.not_isSome_iff_eq_none, isSome_inverse?_iff]
    simp only [not_exists, not_and, Resource.singles, List.mem_filter, decide_eq_true_eq, and_imp,
      inverseName_eq_iff]
  case declared =>
    intro target name inverse hinverse
    obtain ⟨-, before, after, hsplit, -⟩ := inverse?_eq_some_iff.mp hinverse
    have hmem : (inverse.source, inverse.relation) ∈ relationsOf schema := by simp [hsplit]
    obtain ⟨resource, hresource, hrelation, hsource⟩ := mem_relationsOf.mp hmem
    obtain ⟨hrelation, hone⟩ := List.mem_filter.mp hrelation
    exact ⟨resource, hresource, hsource.symm, hrelation, of_decide_eq_true hone⟩
  case listed => exact fun target => keys_of_build target _
  case noted => exact journal_of_build _

end Registry

end Docbase
