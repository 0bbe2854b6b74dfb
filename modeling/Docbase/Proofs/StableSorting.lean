import Docbase.Proofs.Comparison

/-! # Sorting by fields that hold no lists and no objects

Values that are neither lists nor objects never cross, so that documents that hold only such values
in some fields are in one order by them. Sorting by one order and then by another one is sorting by
the second and, where that finds no difference, by the first.
-/

namespace Docbase

/-! ## Sorting twice -/

section

variable {α : Type} {less first second : α → α → Bool} {items : List α}

theorem WeaklyOrders.comap {β : Type} {f : β → α} {others : List β} (h : WeaklyOrders less items)
    (hf : ∀ b ∈ others, f b ∈ items) : WeaklyOrders (fun a b => less (f a) (f b)) others where
  asymm a ha b hb := h.asymm _ (hf a ha) _ (hf b hb)
  trans a ha b hb c hc := h.trans _ (hf a ha) _ (hf b hb) _ (hf c hc)

theorem rel_of_mem_zipIdx {R : α → α → Prop} (h : items.Pairwise R) {a b : α × Nat}
    (ha : a ∈ items.zipIdx) (hb : b ∈ items.zipIdx) (hlt : a.2 < b.2) : R a.1 b.1 := by
  rw [List.mem_zipIdx_iff_getElem?, List.getElem?_eq_some_iff] at ha hb
  obtain ⟨hal, ha⟩ := ha
  obtain ⟨hbl, hb⟩ := hb
  rw [← ha, ← hb]
  exact List.pairwise_iff_getElem.mp h _ _ hal hbl hlt

/-- What has been put in one order and is then sorted by another one is in the order in which the
second decides, and the first where the second does not. -/
theorem Arranges.stableSort {sorted : List α} (h : Arranges second items sorted)
    (hfirst : WeaklyOrders first items)
    (hless : ∀ a ∈ items, ∀ b ∈ items, less a b = (first a b || (!first b a && second a b))) :
    Arranges less items (stableSort first sorted) := by
  obtain ⟨numbered, hperm, hordered, rfl⟩ := h
  have hmem {a : α × Nat} (ha : a ∈ numbered) : a.1 ∈ items :=
    List.fst_mem_of_mem_zipIdx (hperm.mem_iff.mp ha)
  have hweakly : WeaklyOrders (lessFirst first) numbered := hfirst.comap fun _ => hmem
  obtain ⟨again, hperm', hordered', hagain⟩ := arranges_stableSort hweakly
  refine ⟨Docbase.stableSort (lessFirst first) numbered, (stableSort_perm _ _).trans hperm, ?_,
    map_stableSort Prod.fst first numbered⟩
  rw [← hagain, List.pairwise_map]
  refine hordered'.imp_of_mem fun {a b} ha hb hab => ?_
  have ha' := hperm'.mem_iff.mp ha
  have hb' := hperm'.mem_iff.mp hb
  have hsame := hless a.1.1 (hmem (List.fst_mem_of_mem_zipIdx ha')) b.1.1
    (hmem (List.fst_mem_of_mem_zipIdx hb'))
  have hsame' := hless b.1.1 (hmem (List.fst_mem_of_mem_zipIdx hb')) a.1.1
    (hmem (List.fst_mem_of_mem_zipIdx ha'))
  have hnot : first b.1.1 a.1.1 = false := hab.1
  cases hdecides : first a.1.1 b.1.1 with
  | true => exact ⟨by simp [hsame', hnot, hdecides], .inl (by simp [hsame, hdecides])⟩
  | false =>
      -- The order in which they come is the one in which they have been put first.
      have hlt : a.2 < b.2 := hab.2.resolve_left (by simp [lessFirst, hdecides])
      obtain ⟨hsecond, hsecond'⟩ := rel_of_mem_zipIdx hordered ha' hb' hlt
      refine ⟨by simp [hsame', hnot, hdecides, hsecond], hsecond'.imp_left fun hsecond => ?_⟩
      simp [hsame, hnot, hsecond]

end

/-! ## Documents -/

/-- Whether a value is neither a list nor an object, but a value of JSON. -/
def Value.IsScalar (value : Value) : Prop :=
  value.IsJson ∧ value.isMutable = false

/-- Documents are put in order by fields: each compares at most zero with every later one, and those
that compare zero stand by their numbers. -/
def SortedBy (fields : List SortField) (docs sorted : List Document) : Prop :=
  ∃ numbered : List (Document × Nat), numbered.Perm docs.zipIdx ∧
    (numbered.Pairwise fun a b => compareDocuments fields a.1 b.1 ≤ 0 ∧
      (compareDocuments fields a.1 b.1 = 0 → a.2 < b.2)) ∧
    numbered.map (·.1) = sorted

theorem sortedBy_iff_arranges {fields : List SortField} {docs sorted : List Document}
    (h : Opposes (compareDocuments fields) {doc | doc ∈ docs}) : SortedBy fields docs sorted ↔
      Arranges (fun a b => decide (compareDocuments fields a b < 0)) docs sorted := by
  refine exists_congr fun numbered => and_congr_right fun hperm => and_congr_left fun _ => ?_
  have hmem {a : Document × Nat} (ha : a ∈ numbered) : a.1 ∈ docs :=
    List.fst_mem_of_mem_zipIdx (hperm.mem_iff.mp ha)
  refine List.Pairwise.iff_of_mem fun {a b} ha hb => ?_
  have hopposite := h a.1 (hmem ha) b.1 (hmem hb)
  simp only [Precedes, decide_eq_true_eq, decide_eq_false_iff_not]
  omega

theorem Value.not_crosses_of_isScalar {x y z : Value} (hx : x.IsScalar) (hy : y.IsScalar)
    (hz : z.IsScalar) : ¬Value.Crosses z x y := by
  intro hcrosses
  obtain ⟨hjson, hplain⟩ := hz
  rcases hx.1.stands_of_crosses hy.1 hjson hcrosses with ⟨htype, -⟩ | ⟨htype, -⟩
  · cases hjson <;> simp_all [Value.typeName, Value.isMutable]
  · cases hjson <;> simp_all [Value.typeName, Value.isMutable]

theorem compareDocuments_cons_zero {field : SortField} {rest : List SortField} {a b : Document}
    (h : compareDocuments (field :: rest) a b = 0) :
    compareDocuments [field] a b = 0 ∧ compareDocuments rest a b = 0 := by
  rw [compareDocuments_cons, thenBy] at h
  rw [compareDocuments_singleton]
  split at h
  next hne => exact absurd h hne
  next hzero => exact ⟨not_not.mp hzero, h⟩

theorem compareDocuments_texts {field : SortField} {a b : Document} {s t : String}
    (ha : a.get field.field = .text s) (hb : b.get field.field = .text t)
    (h : compareDocuments [field] a b = 0) : s = t := by
  have hdirection : field.direction ≠ 0 := by
    unfold SortField.direction
    split <;> decide
  simpa [compareDocuments_singleton, compareBy, ha, hb, Value.isNull, hdirection,
    Value.collateValues_texts, Value.collate_eq_zero_iff] using h

/-- Documents that hold different texts in a field do not compare zero by fields among which it
is. -/
theorem texts_eq_of_compareDocuments {fields : List SortField} {a b : Document}
    (h : compareDocuments fields a b = 0) {field : SortField} (hfield : field ∈ fields)
    {s t : String} (ha : a.get field.field = .text s) (hb : b.get field.field = .text t) :
    s = t := by
  induction fields with
  | nil => cases hfield
  | cons first rest ih =>
      obtain ⟨hfirst, hrest⟩ := compareDocuments_cons_zero h
      rcases List.mem_cons.mp hfield with rfl | hlater
      · exact compareDocuments_texts ha hb hfirst
      · exact ih hrest hlater

theorem exists_append_of_pairwise {α : Type} {last : α → Bool} {items : List α}
    (h : items.Pairwise fun a b => last a = true → last b = true) :
    ∃ front back, items = front ++ back ∧ (∀ a ∈ front, last a = false) ∧
      ∀ a ∈ back, last a = true := by
  induction items with
  | nil => exact ⟨[], [], rfl, by simp, by simp⟩
  | cons item rest ih =>
      obtain ⟨hitem, hrest⟩ := List.pairwise_cons.mp h
      cases hlast : last item with
      | true =>
          exact ⟨[], item :: rest, rfl, by simp,
            List.forall_mem_cons.mpr ⟨hlast, fun other hother => hitem other hother hlast⟩⟩
      | false =>
          obtain ⟨front, back, rfl, hfront, hback⟩ := ih hrest
          exact ⟨item :: front, back, rfl, List.forall_mem_cons.mpr ⟨hlast, hfront⟩, hback⟩

section

variable {docs : List Document} {fields : List SortField}
  (hscalar : ∀ field ∈ fields, ∀ doc ∈ docs, (doc.get field.field).IsScalar)

include hscalar

theorem opposes_of_isScalar : Opposes (compareDocuments fields) {doc | doc ∈ docs} :=
  opposes_of_values fun field hfield doc hdoc => (hscalar field hfield doc hdoc).1

/-- Documents are in one order by fields in which they hold neither lists nor objects. -/
theorem weaklyOrders_of_isScalar :
    WeaklyOrders (fun a b => decide (compareDocuments fields a b < 0)) docs := by
  have huncrossed : ∀ field ∈ fields, Value.Uncrossed (valuesOf docs field.field) := by
    intro field hfield x hx y hy z hz
    have hvalue {value : Value} (h : value ∈ valuesOf docs field.field) : value.IsScalar := by
      obtain ⟨doc, hdoc, rfl⟩ := List.mem_map.mp (List.mem_of_mem_filter h)
      exact hscalar field hfield doc hdoc
    exact Value.not_crosses_of_isScalar (hvalue hx) (hvalue hy) (hvalue hz)
  have htransits := transits_of_values
    (fun field hfield doc hdoc => (hscalar field hfield doc hdoc).1) huncrossed
  exact htransits.weaklyOrders (opposes_of_isScalar hscalar)

/-- Sorting by the fields one at a time, from the last to the first, puts documents in order by all
of them. -/
theorem arranges_foldr :
    Arranges (fun a b => decide (compareDocuments fields a b < 0)) docs
      (fields.foldr (fun field docs => sortDocuments docs [field]) docs) := by
  induction fields with
  | nil => exact .of_forall_not_less (by simp [compareDocuments]) docs
  | cons field rest ih =>
      obtain ⟨hfirst, hrest⟩ := List.forall_mem_cons.mp hscalar
      have hsingle : ∀ single ∈ [field], ∀ doc ∈ docs, (doc.get single.field).IsScalar :=
        List.forall_mem_singleton.mpr hfirst
      have hopposes := opposes_of_isScalar hsingle
      refine (ih hrest).stableSort (weaklyOrders_of_isScalar hsingle) fun a ha b hb => ?_
      have hopposite := hopposes a ha b hb
      rw [compareDocuments_cons, ← compareDocuments_singleton, thenBy, Bool.eq_iff_iff]
      simp only [Bool.or_eq_true, Bool.and_eq_true, Bool.not_eq_true', decide_eq_true_eq,
        decide_eq_false_iff_not]
      split <;> omega

theorem sortedBy_iff {sorted : List Document} :
    SortedBy fields docs sorted ↔ sorted = sortDocuments docs fields := by
  rw [sortedBy_iff_arranges (opposes_of_isScalar hscalar)]
  have harranges := arranges_sortDocuments (weaklyOrders_of_isScalar hscalar)
  exact ⟨fun hsorted => hsorted.unique harranges, fun heq => heq ▸ harranges⟩

theorem pairwise_sortDocuments :
    (sortDocuments docs fields).Pairwise fun a b => compareDocuments fields a b ≤ 0 := by
  obtain ⟨numbered, -, hordered, hsorted⟩ := (sortedBy_iff hscalar).mpr rfl
  rw [← hsorted, List.pairwise_map]
  exact hordered.imp And.left

end

/-- How documents are sorted by fields in which they hold neither lists nor objects. -/
structure SortsStably (docs : List Document) (fields : List SortField) : Prop where
  /-- There is one way of putting them in order by the fields, and sorting gives it. -/
  only : ∀ sorted, SortedBy fields docs sorted ↔ sorted = sortDocuments docs fields
  /-- Documents without a value in the first field come after all others, whatever its direction. -/
  nulls : ∀ first rest, fields = first :: rest → ∃ valued missing,
    sortDocuments docs fields = valued ++ missing ∧
      (∀ doc ∈ valued, (doc.get first.field).isNull = false) ∧
      ∀ doc ∈ missing, (doc.get first.field).isNull = true
  /-- Texts are no different only if they are equal. -/
  texts : ∀ s t : String, Value.collateValues (.text s) (.text t) = 0 → s = t
  /-- So documents that are no different hold equal texts in the fields. -/
  told : ∀ field ∈ fields, ∀ a ∈ docs, ∀ b ∈ docs, ∀ s t : String,
    a.get field.field = .text s → b.get field.field = .text t →
      compareDocuments fields a b = 0 → s = t
  /-- It is the same to sort by the fields one at a time, from the last to the first. -/
  iterated : sortDocuments docs fields =
    fields.foldr (fun field docs => sortDocuments docs [field]) docs

/-- Documents that hold neither lists nor objects in the sort fields are sorted in the one way that
keeps those which are no different as they stand. -/
theorem sorts_stably {docs : List Document} {fields : List SortField}
    (hscalar : ∀ field ∈ fields, ∀ doc ∈ docs, (doc.get field.field).IsScalar) :
    SortsStably docs fields := by
  constructor
  case only => exact fun _ => sortedBy_iff hscalar
  case nulls =>
    rintro first rest rfl
    refine exists_append_of_pairwise
      ((pairwise_sortDocuments hscalar).imp fun {a b} hle hnull => ?_)
    by_contra hvalue
    simp [compareDocuments, hnull, hvalue] at hle
  case texts =>
    intro s t h
    rwa [Value.collateValues_texts, Value.collate_eq_zero_iff] at h
  case told =>
    intro field hfield a _ b _ s t ha hb h
    exact texts_eq_of_compareDocuments h hfield ha hb
  case iterated =>
    exact (arranges_sortDocuments (weaklyOrders_of_isScalar hscalar)).unique
      (arranges_foldr hscalar)

/-- Deals with titles of which some differ in case only, and with values that are numbers, truth
values or missing. -/
def titledDeals : List Document :=
  [[("title", .text "b"), ("value", .int 2)], [("title", .text "b"), ("value", .null)],
    [("title", .text "a"), ("value", .bool true)], [("title", .text "B"), ("tags", .list [])],
    [("title", .text "c"), ("value", .int 2)]]

/-- Large values first, and then by title. -/
def byValue : List SortField :=
  [⟨"value", true⟩, ⟨"title", false⟩]

theorem sorts_stably_titledDeals :
    (∀ field ∈ byValue, ∀ doc ∈ titledDeals, (doc.get field.field).IsScalar) ∧
      SortsStably titledDeals byValue ∧
      (sortDocuments titledDeals byValue).map (fun doc => (doc.get "title").shown) =
        ["b", "c", "a", "B", "b"] := by
  have htext (s : String) : (Value.text s).IsScalar := ⟨.text s, rfl⟩
  have hnull : Value.null.IsScalar := ⟨.null, rfl⟩
  have hscalar : ∀ field ∈ byValue, ∀ doc ∈ titledDeals, (doc.get field.field).IsScalar := by
    simp only [byValue, titledDeals, List.forall_mem_cons, List.not_mem_nil, false_implies,
      implies_true, and_true]
    exact ⟨⟨⟨.int 2, rfl⟩, hnull, ⟨.bool true, rfl⟩, hnull, ⟨.int 2, rfl⟩⟩,
      htext "b", htext "b", htext "a", htext "B", htext "c"⟩
  exact ⟨hscalar, sorts_stably hscalar, by decide +kernel⟩

end Docbase
