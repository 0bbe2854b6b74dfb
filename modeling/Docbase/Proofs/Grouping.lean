import Docbase.Proofs.Lookup
import Docbase.Proofs.Pipelines
import Docbase.Proofs.QuotedTexts

/-! # Groups of equal values

Documents are gathered under the values of a field, and a filter asks for a value of the field. For
values that are neither lists nor objects both take the same values for equal. Lists and objects
are gathered by their texts, which makes groups finer: only what is written alike is taken
together, while a filter takes numbers and keys in another order for equal.
-/

namespace Docbase

open Effect

namespace Value

/-! ## Equality on values of JSON -/

/-- What a value is told apart by: a number by its place, anything else by itself. -/
def identity (value : Value) : Value ⊕ Double.Place :=
  match value with
  | int n => .inr (Double.placeOfInt n)
  | double x => x.place?.elim (.inl (double x)) .inr
  | value => .inl value

theorem exists_place {x : Double} (hnumber : x ≠ .nan) : ∃ place, x.place? = some place := by
  cases x with
  | nan => exact absurd rfl hnumber
  | infinite negative => cases negative <;> exact ⟨_, rfl⟩
  | finite negative quanta => exact ⟨_, rfl⟩

/-- Filters tell values that are neither lists nor objects apart by their identities. -/
theorem IsJson.sameKind_iff {a b : Value} (ha : a.IsJson) (hb : b.IsJson)
    (hplain : a.isMutable = false ∨ b.isMutable = false) :
    a.sameKind b = true ↔ a.identity = b.identity := by
  cases ha with
  | @double x _ hx =>
      -- A double has a place only if it is a number, which has to be said before it is compared.
      obtain ⟨place, hplace⟩ := exists_place hx
      cases hb with
      | @double y _ hy =>
          obtain ⟨place', hplace'⟩ := exists_place hy
          simp [sameKind, eq, samePlace, place?, identity, hplace, hplace']
      | _ => simp [sameKind, eq, samePlace, place?, identity, hplace]
  | _ =>
      cases hb with
      | @double y _ hy =>
          obtain ⟨place, hplace⟩ := exists_place hy
          simp [sameKind, eq, samePlace, place?, identity, hplace, isNull]
      | _ => simp_all [sameKind, eq, samePlace, place?, identity, isNull, isMutable]

theorem eqItems_self {items : List Value} (h : ∀ item ∈ items, item.eq item = true) :
    eqItems items items = true := by
  induction items with
  | nil => rfl
  | cons item rest ih =>
      rw [eqItems, h item (.head _), ih fun other hother => h other (.tail _ hother)]
      rfl

theorem eqFields_of_lookup {fields others : List (String × Value)}
    (h : ∀ field ∈ fields, ∃ value, others.lookup field.1 = some value ∧
      field.2.eq value = true) : eqFields fields others = true := by
  induction fields with
  | nil => rfl
  | cons field rest ih =>
      obtain ⟨value, hlookup, hvalue⟩ := h field (.head _)
      rw [eqFields, ih fun other hother => h other (.tail _ hother), hlookup]
      exact (Bool.and_true _).trans hvalue

theorem IsJson.eq_self {a : Value} (ha : a.IsJson) : a.eq a = true := by
  induction ha with
  | null => rfl
  | bool b => simp [eq, samePlace, place?]
  | int n => simp [eq, samePlace, place?]
  | double hproper hnumber =>
      obtain ⟨place, hplace⟩ := exists_place hnumber
      simp [eq, samePlace, place?, hplace]
  | text s => simp [eq]
  | list hitems ih => rw [eq, eqItems_self ih]
  | @object fields hkeys hfields ih =>
      have hlookup : ∀ field ∈ fields, ∃ value, fields.lookup field.1 = some value ∧
          field.2.eq value = true :=
        fun field hfield => ⟨field.2, Keyed.get?_of_mem hkeys hfield, ih field hfield⟩
      rw [eq, eqFields_of_lookup hlookup]
      simp

theorem IsJson.sameKind_self {a : Value} (ha : a.IsJson) : a.sameKind a = true := by
  cases ha with
  | bool b => exact beq_self_eq_true b
  | null => rfl
  | int n => exact (IsJson.int n).eq_self
  | double hproper hnumber => exact (IsJson.double hproper hnumber).eq_self
  | text s => exact (IsJson.text s).eq_self
  | list hitems => exact (IsJson.list hitems).eq_self
  | object hkeys hfields => exact (IsJson.object hkeys hfields).eq_self

/-! ## The keys of groups -/

theorem identity_of_isMutable {a : Value} (ha : a.isMutable = true) : a.identity = .inl a := by
  cases a with
  | list items => rfl
  | object fields => rfl
  | _ => cases ha

theorem eq_of_identity {a b : Value} (h : b.identity = .inl a) : b = a := by
  cases b with
  | int n => cases h
  | double x =>
      rw [identity] at h
      cases hplace : x.place? with
      | none => rw [hplace] at h; exact Sum.inl.inj h
      | some place => rw [hplace] at h; cases h
  | _ => exact Sum.inl.inj h

theorem identity_eq_iff {a b : Value} (ha : a.isMutable = true) :
    a.identity = b.identity ↔ a = b := by
  rw [identity_of_isMutable ha]
  constructor
  · exact fun h => (eq_of_identity h.symm).symm
  · rintro rfl
    exact (identity_of_isMutable ha).symm

/-- Filters take values for equal that are not told apart. -/
theorem IsJson.sameKind_of_identity {a b : Value} (ha : a.IsJson) (hb : b.IsJson)
    (h : a.identity = b.identity) : a.sameKind b = true := by
  cases hmutable : a.isMutable with
  | false => exact (ha.sameKind_iff hb (.inl hmutable)).mpr h
  | true =>
      rw [← (identity_eq_iff hmutable).mp h]
      exact ha.sameKind_self

/-- Whether two values are gathered into one group. -/
def isGathered (a b : Value) : Bool :=
  (GroupKey.ofValue a).same (.ofValue b)

/-- Groups tell values apart by their identities, which for lists and objects is all that is
written. -/
theorem IsJson.isGathered_iff {a b : Value} (ha : a.IsJson) (hb : b.IsJson) :
    a.isGathered b = true ↔ a.identity = b.identity := by
  rw [isGathered, GroupKey.ofValue, GroupKey.ofValue]
  cases hmutable : a.isMutable with
  | false =>
      cases hmutable' : b.isMutable with
      | false => exact ha.sameKind_iff hb (.inl hmutable)
      | true =>
          refine iff_of_false Bool.false_ne_true fun h => ?_
          rw [(identity_eq_iff hmutable').mp h.symm, hmutable] at hmutable'
          cases hmutable'
  | true =>
      rw [identity_eq_iff hmutable]
      cases hmutable' : b.isMutable with
      | false =>
          refine iff_of_false Bool.false_ne_true fun h => ?_
          rw [← h, hmutable] at hmutable'
          cases hmutable'
      | true =>
          refine beq_iff_eq.trans ⟨quoted_injective ha hb, ?_⟩
          rintro rfl
          rfl

end Value

namespace Group

/-- The documents of a group are those whose values are gathered with its own, which one of them
has; groups are told apart by the identities of their values, and together they hold all
documents. -/
structure Parts (valueOf : Document → Value) (docs : List Document) (groups : List Group) :
    Prop where
  keyed : ∀ group ∈ groups, group.key = .ofValue group.value
  headed : ∀ group ∈ groups, ∃ doc ∈ group.docs, valueOf doc = group.value
  docs_eq : ∀ group ∈ groups,
    group.docs = docs.filter fun doc => group.value.isGathered (valueOf doc)
  distinct : (groups.map fun group => group.value.identity).Nodup
  covered : ∀ doc ∈ docs, ∃ group ∈ groups, group.value.identity = (valueOf doc).identity

/-- A document goes into a group that is there, or opens one at the end. -/
theorem gather_cases (value : Value) (doc : Document) (groups : List Group) :
    (∃ before group after, groups = before ++ group :: after ∧
      group.key.same (.ofValue value) = true ∧
      gather value doc groups = before ++ { group with docs := group.docs ++ [doc] } :: after) ∨
    (∀ group ∈ groups, group.key.same (.ofValue value) = false) ∧
      gather value doc groups = groups ++ [⟨.ofValue value, value, [doc]⟩] := by
  induction groups with
  | nil => exact .inr ⟨fun _ h => (List.not_mem_nil h).elim, rfl⟩
  | cons group rest ih =>
      cases hsame : group.key.same (.ofValue value) with
      | true => exact .inl ⟨[], group, rest, rfl, hsame, by rw [gather, if_pos hsame]; rfl⟩
      | false =>
          have hgather : gather value doc (group :: rest) = group :: gather value doc rest := by
            rw [gather, if_neg (by rw [hsame]; decide)]
          rw [hgather]
          rcases ih with ⟨before, found, after, rfl, hfound, hrest⟩ | ⟨hnone, hrest⟩
          · exact .inl ⟨group :: before, found, after, rfl, hfound, by rw [hrest]; rfl⟩
          · exact .inr ⟨List.forall_mem_cons.mpr ⟨hsame, hnone⟩, by rw [hrest]; rfl⟩

section

variable {valueOf : Document → Value} {docs : List Document} {groups : List Group}
  {doc : Document}

theorem Parts.isJson (h : Parts valueOf docs groups) (hjson : ∀ doc ∈ docs, (valueOf doc).IsJson)
    {group : Group} (hgroup : group ∈ groups) : group.value.IsJson := by
  obtain ⟨first, hfirst, hvalue⟩ := h.headed group hgroup
  rw [h.docs_eq group hgroup] at hfirst
  rw [← hvalue]
  exact hjson first (List.mem_of_mem_filter hfirst)

section

variable (h : Parts valueOf docs groups) (hdocs : ∀ other ∈ docs, (valueOf other).IsJson)
  (hdoc : (valueOf doc).IsJson)

include h hdocs hdoc

theorem Parts.isGathered_iff {group : Group} (hgroup : group ∈ groups) :
    group.value.isGathered (valueOf doc) = true ↔
      group.value.identity = (valueOf doc).identity :=
  (h.isJson hdocs hgroup).isGathered_iff hdoc

/-- A group stays as it is when a document comes that is told apart from it. -/
theorem Parts.docs_eq_append {group : Group} (hgroup : group ∈ groups)
    (hne : group.value.identity ≠ (valueOf doc).identity) :
    group.docs = (docs ++ [doc]).filter fun other => group.value.isGathered (valueOf other) := by
  have hapart : group.value.isGathered (valueOf doc) = false :=
    Bool.eq_false_iff.mpr (mt (h.isGathered_iff hdocs hdoc hgroup).mp hne)
  rw [List.filter_append, ← h.docs_eq group hgroup, List.filter_singleton, hapart]
  exact (List.append_nil _).symm

/-- A document that is told apart from all groups opens one. -/
theorem Parts.opened (hapart : ∀ group ∈ groups, group.value.identity ≠ (valueOf doc).identity) :
    Parts valueOf (docs ++ [doc]) (groups ++ [⟨.ofValue (valueOf doc), valueOf doc, [doc]⟩]) := by
  constructor
  case keyed =>
    refine List.forall_mem_append.mpr ⟨h.keyed, ?_⟩
    simp
  case headed =>
    refine List.forall_mem_append.mpr ⟨h.headed, ?_⟩
    simp
  case docs_eq =>
    refine List.forall_mem_append.mpr
      ⟨fun group hgroup => h.docs_eq_append hdocs hdoc hgroup (hapart group hgroup), ?_⟩
    -- No document has been gathered under an equal value before.
    have hnone : (docs.filter fun other => (valueOf doc).isGathered (valueOf other)) = [] := by
      refine List.filter_eq_nil_iff.mpr fun other hother hsame => ?_
      obtain ⟨group, hgroup, heq⟩ := h.covered other hother
      have hidentity := (hdoc.isGathered_iff (hdocs other hother)).mp hsame
      exact hapart group hgroup (heq.trans hidentity.symm)
    intro group hgroup
    rw [List.mem_singleton.mp hgroup, List.filter_append, hnone, List.filter_singleton,
      (hdoc.isGathered_iff hdoc).mpr rfl]
    rfl
  case distinct =>
    rw [List.map_append, List.map_singleton, List.nodup_append]
    refine ⟨h.distinct, List.nodup_singleton _, ?_⟩
    simpa using hapart
  case covered =>
    refine List.forall_mem_append.mpr ⟨fun other hother => ?_, ?_⟩
    · obtain ⟨found, hfound, heq⟩ := h.covered other hother
      exact ⟨found, List.mem_append_left _ hfound, heq⟩
    · simp

end

/-- A document that is not told apart from a group goes into it. -/
theorem Parts.joined {before after : List Group} {group : Group}
    (h : Parts valueOf docs (before ++ group :: after))
    (hdocs : ∀ other ∈ docs, (valueOf other).IsJson) (hdoc : (valueOf doc).IsJson)
    (hidentity : group.value.identity = (valueOf doc).identity) :
    Parts valueOf (docs ++ [doc])
      (before ++ { group with docs := group.docs ++ [doc] } :: after) := by
  have hmem {x other : Group} : other ∈ before ++ x :: after ↔
      other = x ∨ other ∈ before ++ after := by
    simp [or_left_comm]
  have hgroup : group ∈ before ++ group :: after := hmem.mpr (.inl rfl)
  -- Identities are distinct, so that no other group takes the document as well.
  have hothers : ∀ other ∈ before ++ after,
      other.value.identity ≠ (valueOf doc).identity := by
    intro other hother heq
    have hdistinct := h.distinct
    rw [List.map_append, List.map_cons, List.nodup_middle, ← List.map_append] at hdistinct
    exact (List.nodup_cons.mp hdistinct).1
      (List.mem_map.mpr ⟨other, hother, heq.trans hidentity.symm⟩)
  constructor
  case keyed =>
    intro other hother
    rcases hmem.mp hother with rfl | hother
    · exact h.keyed group hgroup
    · exact h.keyed other (hmem.mpr (.inr hother))
  case headed =>
    intro other hother
    rcases hmem.mp hother with rfl | hother
    · obtain ⟨first, hfirst, hvalue⟩ := h.headed group hgroup
      exact ⟨first, List.mem_append_left _ hfirst, hvalue⟩
    · exact h.headed other (hmem.mpr (.inr hother))
  case docs_eq =>
    intro other hother
    rcases hmem.mp hother with rfl | hother
    · rw [List.filter_append, ← h.docs_eq group hgroup, List.filter_singleton,
        (h.isGathered_iff hdocs hdoc hgroup).mpr hidentity]
      rfl
    · exact h.docs_eq_append hdocs hdoc (hmem.mpr (.inr hother)) (hothers other hother)
  case distinct => simpa using h.distinct
  case covered =>
    refine List.forall_mem_append.mpr ⟨fun other hother => ?_, ?_⟩
    · obtain ⟨found, hfound, heq⟩ := h.covered other hother
      rcases hmem.mp hfound with rfl | hfound
      · exact ⟨_, hmem.mpr (.inl rfl), heq⟩
      · exact ⟨found, hmem.mpr (.inr hfound), heq⟩
    · rintro other hother
      rw [List.mem_singleton.mp hother]
      exact ⟨_, hmem.mpr (.inl rfl), hidentity⟩

/-- One more document leaves what groups are. -/
theorem Parts.gather (h : Parts valueOf docs groups)
    (hdocs : ∀ other ∈ docs, (valueOf other).IsJson) (hdoc : (valueOf doc).IsJson) :
    Parts valueOf (docs ++ [doc]) (gather (valueOf doc) doc groups) := by
  have hsame {group : Group} (hgroup : group ∈ groups) :
      group.key.same (.ofValue (valueOf doc)) = true ↔
        group.value.identity = (valueOf doc).identity := by
    rw [h.keyed group hgroup]
    exact h.isGathered_iff hdocs hdoc hgroup
  rcases gather_cases (valueOf doc) doc groups with
    ⟨before, group, after, rfl, hfound, hgather⟩ | ⟨hnone, hgather⟩
  · rw [hgather]
    exact h.joined hdocs hdoc ((hsame (by simp)).mp hfound)
  · rw [hgather]
    refine h.opened hdocs hdoc fun group hgroup heq => ?_
    exact absurd (hnone group hgroup) (by simp [(hsame hgroup).mpr heq])

theorem parts_ofDocuments (hjson : ∀ doc ∈ docs, (valueOf doc).IsJson) :
    Parts valueOf docs (ofDocuments valueOf docs) := by
  induction docs using List.reverseRecOn with
  | nil => exact ⟨by simp [ofDocuments], by simp [ofDocuments], by simp [ofDocuments],
      .nil, by simp⟩
  | append_singleton docs doc ih =>
      rw [ofDocuments_append_singleton]
      obtain ⟨hdocs, hdoc⟩ := List.forall_mem_append.mp hjson
      exact (ih hdocs).gather hdocs (hdoc doc (.head _))

end

/-! ## Groups and filters -/

/-- How the groups of documents by a field stand to the equality of filters: where neither lists
nor objects are compared, a group holds just the documents that a filter takes for equal, and
their number is its count. Lists and objects are gathered when they are the same as written, and
then a filter takes them for equal, but not conversely. -/
structure Agree (k : String) (docs : List Document) (groups : List Group) : Prop where
  gathered : ∀ doc ∈ docs, ∃ group ∈ groups, doc ∈ group.docs
  apart : groups.Pairwise fun a b => ∀ doc ∈ a.docs, doc ∉ b.docs
  headed : ∀ group ∈ groups, ∃ doc ∈ group.docs, doc.get k = group.value
  plain : ∀ group ∈ groups, ∀ doc ∈ group.docs, ∀ other ∈ docs,
    (doc.get k).isMutable = false ∨ (other.get k).isMutable = false →
      (other ∈ group.docs ↔ (doc.get k).sameKind (other.get k) = true)
  nested : ∀ group ∈ groups, ∀ doc ∈ group.docs, ∀ other ∈ docs,
    (doc.get k).isMutable = true → (other ∈ group.docs ↔ doc.get k = other.get k)
  equal : ∀ group ∈ groups, ∀ doc ∈ group.docs, ∀ other ∈ group.docs,
    (doc.get k).sameKind (other.get k) = true
  asked : Connective.ofKey? k = none → ∀ group ∈ groups,
    Filter.read (.object [(k, .object [("$eq", group.value)])]) =
      .ok (Filter.equating k group.value)
  counted : ∀ group ∈ groups, group.value.isMutable = false →
    group.docs.length = docs.countP (Filter.equating k group.value).holds
  counted_nested : ∀ group ∈ groups, group.value.isMutable = true →
    group.docs.length = docs.countP fun doc => (doc.get k).quoted == group.value.quoted
  counted_le : ∀ group ∈ groups,
    group.docs.length ≤ docs.countP (Filter.equating k group.value).holds

section

variable {k : String} {docs : List Document} {groups : List Group}
  (h : Parts (fun doc => doc.get k) docs groups) (hjson : ∀ doc ∈ docs, (doc.get k).IsJson)

include h hjson

theorem Parts.mem_docs_iff {group : Group} (hgroup : group ∈ groups) {doc : Document} :
    doc ∈ group.docs ↔ doc ∈ docs ∧ group.value.identity = (doc.get k).identity := by
  rw [h.docs_eq group hgroup, List.mem_filter]
  exact and_congr_right fun hdoc => (h.isJson hjson hgroup).isGathered_iff (hjson doc hdoc)

theorem Parts.length_docs {group : Group} (hgroup : group ∈ groups) {holds : Document → Bool}
    (hholds : ∀ doc ∈ docs, holds doc = true ↔ group.value.identity = (doc.get k).identity) :
    group.docs.length = docs.countP holds := by
  rw [h.docs_eq group hgroup, ← List.countP_eq_length_filter]
  refine List.countP_congr fun doc hdoc => ?_
  exact ((h.isJson hjson hgroup).isGathered_iff (hjson doc hdoc)).trans (hholds doc hdoc).symm

theorem Parts.agree : Agree k docs groups := by
  -- The documents of a group are those that its documents are not told apart from.
  have hmem {group : Group} (hgroup : group ∈ groups) {doc other : Document}
      (hdoc : doc ∈ group.docs) (hother : other ∈ docs) :
      other ∈ group.docs ↔ (doc.get k).identity = (other.get k).identity := by
    rw [h.mem_docs_iff hjson hgroup, ← ((h.mem_docs_iff hjson hgroup).mp hdoc).2]
    exact and_iff_right hother
  have hjsonOf {group : Group} (hgroup : group ∈ groups) {doc : Document}
      (hdoc : doc ∈ group.docs) : (doc.get k).IsJson :=
    hjson doc ((h.mem_docs_iff hjson hgroup).mp hdoc).1
  constructor
  case gathered =>
    intro doc hdoc
    obtain ⟨group, hgroup, heq⟩ := h.covered doc hdoc
    exact ⟨group, hgroup, (h.mem_docs_iff hjson hgroup).mpr ⟨hdoc, heq⟩⟩
  case apart =>
    refine (List.pairwise_map.mp h.distinct).imp_of_mem ?_
    intro a b ha hb hne doc hdoc hdoc'
    have hidentity := ((h.mem_docs_iff hjson ha).mp hdoc).2
    have hidentity' := ((h.mem_docs_iff hjson hb).mp hdoc').2
    exact hne (hidentity.trans hidentity'.symm)
  case headed => exact h.headed
  case plain =>
    intro group hgroup doc hdoc other hother hplain
    rw [hmem hgroup hdoc hother]
    exact ((hjsonOf hgroup hdoc).sameKind_iff (hjson other hother) hplain).symm
  case nested =>
    intro group hgroup doc hdoc other hother hmutable
    rw [hmem hgroup hdoc hother]
    exact Value.identity_eq_iff hmutable
  case equal =>
    intro group hgroup doc hdoc other hother
    have hjson' := hjsonOf hgroup hother
    have hother' := ((h.mem_docs_iff hjson hgroup).mp hother).1
    exact (hjsonOf hgroup hdoc).sameKind_of_identity hjson' ((hmem hgroup hdoc hother').mp hother)
  case asked => exact fun hk group _ => Filter.read_asking hk group.value
  case counted =>
    intro group hgroup hplain
    refine h.length_docs hjson hgroup fun doc hdoc => ?_
    rw [Filter.holds_equating, eq_comm (a := group.value.identity)]
    exact (hjson doc hdoc).sameKind_iff (h.isJson hjson hgroup) (.inr hplain)
  case counted_nested =>
    intro group hgroup hmutable
    refine h.length_docs hjson hgroup fun doc hdoc => ?_
    rw [Value.identity_eq_iff hmutable, beq_iff_eq]
    constructor
    · exact fun heq => (Value.quoted_injective (hjson doc hdoc) (h.isJson hjson hgroup) heq).symm
    · rintro heq
      rw [heq]
  case counted_le =>
    intro group hgroup
    rw [h.docs_eq group hgroup, ← List.countP_eq_length_filter]
    refine List.countP_mono_left fun doc hdoc hsame => ?_
    have hgroupJson := h.isJson hjson hgroup
    rw [Filter.holds_equating]
    exact (hjson doc hdoc).sameKind_of_identity hgroupJson
      ((hgroupJson.isGathered_iff (hjson doc hdoc)).mp hsame).symm

end

end Group

namespace Pipeline

/-- The pipeline that counts documents by the values of a field. -/
def groupingPipeline (k : String) : Value :=
  .list [.object [("$group", Group.countedBy (.text ("$" ++ k)))]]

theorem groupValue_reference {k : String} (hk : k ≠ "") :
    groupValue (.text ("$" ++ k)) = .ok fun doc => doc.get k := by
  have hfield : Accumulator.fieldOf? (.text ("$" ++ k)) = some k := by
    obtain ⟨c, rest, hrest⟩ := List.exists_cons_of_ne_nil (mt String.toList_eq_nil_iff.mp hk)
    have htext : ("$" ++ k).toList = '$' :: c :: rest := by
      rw [String.toList_append, hrest]
      rfl
    rw [Accumulator.fieldOf?, htext]
    refine congrArg some ?_
    rw [← hrest, String.ofList_toList]
  simp [groupValue, hfield]

theorem groupingPipeline_gives {k : String} (hk : k ≠ "") (docs : List Document) :
    Gives (run docs (groupingPipeline k))
      (.ok ((Group.ofDocuments (fun doc => doc.get k) docs).map Group.counted)) :=
  run_single_gives (stage_group_gives docs (groupValue_reference hk))

/-- A grouping by a field always succeeds on values of JSON, and tells them apart like a filter for
equality, but for lists and objects, which it tells apart by their texts. -/
theorem groups_by_equality {k : String} (hk : k ≠ "") {docs : List Document}
    (hjson : ∀ doc ∈ docs, (doc.get k).IsJson) :
    ∃ groups : List Group,
      Gives (run docs (groupingPipeline k)) (.ok (groups.map Group.counted)) ∧
      Group.Agree k docs groups := by
  have hparts : Group.Parts (fun doc => doc.get k) docs
      (Group.ofDocuments (fun doc => doc.get k) docs) :=
    Group.parts_ofDocuments hjson
  refine ⟨Group.ofDocuments (fun doc => doc.get k) docs, ?_, ?_⟩
  · exact groupingPipeline_gives hk docs
  · exact hparts.agree hjson

/-- A list of one, which is an integer in the first document and a double in the second. -/
def listsOfOne : List Document :=
  [[("k", .list [.int 1])], [("k", .list [.double (.finite false Double.one)])]]

theorem listsOfOne_isJson : ∀ doc ∈ listsOfOne, (doc.get "k").IsJson := by
  have hone : Value.IsJson (.double (.finite false Double.one)) :=
    .double Double.isQuanta_one (by simp)
  refine List.forall_mem_cons.mpr ⟨.list ?_, List.forall_mem_cons.mpr ⟨.list ?_, by simp⟩⟩
  · exact List.forall_mem_singleton.mpr (.int 1)
  · exact List.forall_mem_singleton.mpr hone

theorem groups_by_equality_listsOfOne :
    "k" ≠ "" ∧ (∀ doc ∈ listsOfOne, (doc.get "k").IsJson) ∧
      ∃ groups : List Group,
        Gives (run listsOfOne (groupingPipeline "k")) (.ok (groups.map Group.counted)) ∧
        Group.Agree "k" listsOfOne groups :=
  ⟨by decide, listsOfOne_isJson, groups_by_equality (by decide) listsOfOne_isJson⟩

theorem groupingPipeline_pair {k : String} (hk : k ≠ "") {a b : Value}
    (hapart : (GroupKey.ofValue a).same (.ofValue b) = false) :
    Gives (run [[(k, a)], [(k, b)]] (groupingPipeline k))
      (.ok [[(idKey, a), ("n", .int 1)], [(idKey, b), ("n", .int 1)]]) := by
  refine (groupingPipeline_gives hk _).of_eq ?_
  have hget (value : Value) : Document.get [(k, value)] k = value := by
    simp [Document.get, Keyed.get?]
  have hgroups : Group.ofDocuments (fun doc => doc.get k) [[(k, a)], [(k, b)]] =
      Group.gather b [(k, b)] (Group.gather a [(k, a)] []) := by
    simp [Group.ofDocuments, hget]
  rw [hgroups, Group.gather, Group.gather, if_neg (by rw [hapart]; decide)]
  rfl

/-- A filter that asks for the first of the lists selects both, but each is a group of its own. -/
theorem listsOfOne_apart :
    (∀ doc ∈ listsOfOne, (doc.get "k").IsJson) ∧
      listsOfOne.countP (Filter.equating "k" (.list [.int 1])).holds = 2 ∧
      Gives (run listsOfOne (groupingPipeline "k")) (.ok
        [[(idKey, .list [.int 1]), ("n", .int 1)],
          [(idKey, .list [.double (.finite false Double.one)]), ("n", .int 1)]]) := by
  refine ⟨listsOfOne_isJson, by decide +kernel, groupingPipeline_pair (by decide) ?_⟩
  decide +kernel

end Pipeline

end Docbase
