import Docbase.Proofs.Crossing
import Docbase.Proofs.Requests

/-! # When documents are in one order

Comparing two documents one way round is the opposite of comparing them the other way round, and a
document compares equal to itself. By one field, documents are in one order exactly if no values of
the field cross, and where none do for any of the fields, there is only one way of sorting.
-/

namespace Docbase

/-- Compares values of a field as the documents that have them: null comes last. -/
def compareBy (field : SortField) (x y : Value) : Int :=
  if x.isNull && y.isNull then 0
  else if x.isNull then 1
  else if y.isNull then -1
  else Value.collateValues x y * field.direction

theorem compareDocuments_cons (field : SortField) (rest : List SortField) :
    compareDocuments (field :: rest) =
      thenBy (fun a b => compareBy field (a.get field.field) (b.get field.field))
        (compareDocuments rest) := by
  funext a b
  rw [compareDocuments, thenBy, compareBy]
  split
  next => rfl
  next =>
    split
    next => rfl
    next =>
      split
      next => rfl
      next =>
        have hdirection : field.direction ≠ 0 := by
          unfold SortField.direction
          split <;> decide
        by_cases hsign : Value.collateValues (a.get field.field) (b.get field.field) = 0
        · simp [hsign]
        · simp [hsign, hdirection]

theorem compareDocuments_singleton (field : SortField) : compareDocuments [field] =
    fun a b => compareBy field (a.get field.field) (b.get field.field) := by
  funext a b
  rw [compareDocuments_cons, thenBy]
  split
  next => rfl
  next hzero => exact (not_not.mp hzero).symm

section

variable (field : SortField)

theorem compareBy_of_not_isNull {x y : Value} (hx : x.IsJson) (hy : y.IsJson)
    (hnx : x.isNull = false) (hny : y.isNull = false) : compareBy field x y =
      if field.descending then Value.collateValues y x else Value.collateValues x y := by
  have hopposite := Value.IsJson.opposes_collateValues x hx y hy
  cases hdescending : field.descending <;>
    simp [compareBy, hnx, hny, SortField.direction, hdescending, hopposite]

theorem opposes_compareBy : Opposes (compareBy field) {a | a.IsJson} := by
  intro x hx y hy
  have hopposite := Value.IsJson.opposes_collateValues x hx y hy
  cases hnx : x.isNull <;> cases hny : y.isNull <;> simp [compareBy, hnx, hny, hopposite]

/-- The values of a field are compared in no circles just if those that are not null are, in either
direction. -/
theorem transits_compareBy_iff {values : List Value} (hjson : ∀ a ∈ values, a.IsJson) :
    Transits (compareBy field) {a | a ∈ values} ↔
      Transits Value.collateValues {a | a ∈ values.filter (!·.isNull)} := by
  have hmem (a : Value) : a ∈ values.filter (!·.isNull) ↔ a ∈ values ∧ a.isNull = false := by
    simp
  have hlast : Transits (compareBy field) {a | a ∈ values} ↔
      Transits (compareBy field) {a | a ∈ values.filter (!·.isNull)} := by
    constructor
    · exact fun h a ha b hb c hc =>
        h a ((hmem a).mp ha).1 b ((hmem b).mp hb).1 c ((hmem c).mp hc).1
    · intro h a ha b hb c hc
      cases hna : a.isNull <;> cases hnb : b.isNull <;> cases hnc : c.isNull
      case false.false.false =>
        exact h a ((hmem a).mpr ⟨ha, hna⟩) b ((hmem b).mpr ⟨hb, hnb⟩) c ((hmem c).mpr ⟨hc, hnc⟩)
      all_goals simp [compareBy, hna, hnb, hnc]
  have hjson' : ∀ a ∈ values.filter (!·.isNull), ∀ b ∈ values.filter (!·.isNull),
      compareBy field a b =
        if field.descending then Value.collateValues b a else Value.collateValues a b := by
    intro a ha b hb
    obtain ⟨ha, hna⟩ := (hmem a).mp ha
    obtain ⟨hb, hnb⟩ := (hmem b).mp hb
    exact compareBy_of_not_isNull field (hjson a ha) (hjson b hb) hna hnb
  refine hlast.trans ((transits_congr hjson').trans ?_)
  cases field.descending with
  | false => rfl
  | true => exact transits_flip_iff

end

/-- What documents hold under a name, without nulls. -/
def valuesOf (docs : List Document) (name : String) : List Value :=
  (docs.map (·.get name)).filter (!·.isNull)

theorem Document.isJson_get {doc : Document} (h : (Value.object doc).IsJson) (name : String) :
    (doc.get name).IsJson := by
  cases h with
  | object hkeys hfields =>
    rw [Document.get]
    cases hget : Keyed.get? doc name with
    | none => exact .null
    | some value => exact .of_get? hfields hget

section

variable {docs : List Document}

/-- Only the values of the fields that documents are compared by have to be values of JSON. -/
theorem opposes_of_values {fields : List SortField}
    (h : ∀ field ∈ fields, ∀ doc ∈ docs, (doc.get field.field).IsJson) :
    Opposes (compareDocuments fields) {doc | doc ∈ docs} := by
  induction fields with
  | nil => exact fun _ _ _ _ => rfl
  | cons field rest ih =>
      obtain ⟨hfirst, hrest⟩ := List.forall_mem_cons.mp h
      rw [compareDocuments_cons]
      exact ((opposes_compareBy field).comap hfirst).thenBy (ih hrest)

theorem transits_single_of_values {field : SortField}
    (h : ∀ doc ∈ docs, (doc.get field.field).IsJson) :
    Transits (compareDocuments [field]) {doc | doc ∈ docs} ↔
      Value.Uncrossed (valuesOf docs field.field) := by
  have hvalues : ∀ value ∈ docs.map (·.get field.field), value.IsJson := by
    intro value hvalue
    obtain ⟨doc, hdoc, rfl⟩ := List.mem_map.mp hvalue
    exact h doc hdoc
  rw [compareDocuments_singleton]
  exact transits_comap_iff.trans ((transits_compareBy_iff field hvalues).trans
    (Value.transits_collateValues_iff fun value hvalue =>
      hvalues value (List.mem_of_mem_filter hvalue)))

theorem transits_of_values {fields : List SortField}
    (hjson : ∀ field ∈ fields, ∀ doc ∈ docs, (doc.get field.field).IsJson)
    (h : ∀ field ∈ fields, Value.Uncrossed (valuesOf docs field.field)) :
    Transits (compareDocuments fields) {doc | doc ∈ docs} := by
  induction fields with
  | nil => exact fun _ _ _ _ _ _ _ _ => le_rfl
  | cons field rest ih =>
      obtain ⟨hfirst, hrest⟩ := List.forall_mem_cons.mp h
      obtain ⟨hjsonFirst, hjsonRest⟩ := List.forall_mem_cons.mp hjson
      rw [← transits_single_of_values hjsonFirst, compareDocuments_singleton] at hfirst
      rw [compareDocuments_cons]
      exact hfirst.thenBy ((opposes_compareBy field).comap hjsonFirst) (ih hjsonRest hrest)

variable (hjson : ∀ doc ∈ docs, (Value.object doc).IsJson)

include hjson

theorem isJson_of_mem_valuesOf {name : String} {value : Value} (h : value ∈ valuesOf docs name) :
    value.IsJson := by
  obtain ⟨hmem, -⟩ := List.mem_filter.mp h
  obtain ⟨doc, hdoc, rfl⟩ := List.mem_map.mp hmem
  exact Document.isJson_get (hjson doc hdoc) name

theorem opposes_compareDocuments (fields : List SortField) :
    Opposes (compareDocuments fields) {doc | doc ∈ docs} :=
  opposes_of_values fun field _ doc hdoc => Document.isJson_get (hjson doc hdoc) field.field

theorem transits_single_iff (field : SortField) :
    Transits (compareDocuments [field]) {doc | doc ∈ docs} ↔
      Value.Uncrossed (valuesOf docs field.field) :=
  transits_single_of_values fun doc hdoc => Document.isJson_get (hjson doc hdoc) field.field

theorem transits_compareDocuments {fields : List SortField}
    (h : ∀ field ∈ fields, Value.Uncrossed (valuesOf docs field.field)) :
    Transits (compareDocuments fields) {doc | doc ∈ docs} :=
  transits_of_values (fun field _ doc hdoc => Document.isJson_get (hjson doc hdoc) field.field) h

end

/-- How documents are ordered by fields. -/
structure OrdersByFields (docs : List Document) : Prop where
  /-- The other way round, two documents compare the opposite way. -/
  opposes : ∀ fields, ∀ a ∈ docs, ∀ b ∈ docs,
    compareDocuments fields b a = -compareDocuments fields a b
  /-- A document is no different from itself. -/
  self : ∀ fields, ∀ doc ∈ docs, compareDocuments fields doc doc = 0
  /-- By a field, documents are compared in no circles exactly if no values of it cross. -/
  single : ∀ field, (∀ a ∈ docs, ∀ b ∈ docs, ∀ c ∈ docs, compareDocuments [field] a b ≤ 0 →
    compareDocuments [field] b c ≤ 0 → compareDocuments [field] a c ≤ 0) ↔
      Value.Uncrossed (valuesOf docs field.field)
  /-- Three values cross exactly if an object stands between a truth value and a number not larger
  than it, or a list or an object between two others of its type. -/
  crossed : ∀ name, ∀ x ∈ valuesOf docs name, ∀ y ∈ valuesOf docs name, ∀ z ∈ valuesOf docs name,
    Value.Crosses z x y ↔
      Value.collateValues x y ≤ 0 ∧ (Value.StandsBetween z x y ∨ Value.StandsAmong z x y)
  /-- By several fields, documents are compared in no circles if no values of any of them cross. -/
  several : ∀ fields, (∀ field ∈ fields, Value.Uncrossed (valuesOf docs field.field)) →
    ∀ a ∈ docs, ∀ b ∈ docs, ∀ c ∈ docs, compareDocuments fields a b ≤ 0 →
      compareDocuments fields b c ≤ 0 → compareDocuments fields a c ≤ 0
  /-- Then there is one way of putting them in order that keeps those which are no different as
  they stand, and sorting gives it. -/
  sorted : ∀ fields, (∀ field ∈ fields, Value.Uncrossed (valuesOf docs field.field)) →
    ∀ sorted, Arranges (fun a b => decide (compareDocuments fields a b < 0)) docs sorted ↔
      sorted = sortDocuments docs fields

/-- Sort fields put documents in order, as far as no object or list stands in between where it does
not belong. -/
theorem orders_by_fields (docs : List Document) (hjson : ∀ doc ∈ docs, (Value.object doc).IsJson) :
    OrdersByFields docs where
  opposes := opposes_compareDocuments hjson
  self fields doc hdoc := (opposes_compareDocuments hjson fields).self hdoc
  single := transits_single_iff hjson
  crossed name x hx y hy z hz := (isJson_of_mem_valuesOf hjson hx).crosses_iff
    (isJson_of_mem_valuesOf hjson hy) (isJson_of_mem_valuesOf hjson hz)
  several fields h := transits_compareDocuments hjson h
  sorted fields h sorted := by
    have harranges := arranges_sortDocuments ((transits_compareDocuments hjson h).weaklyOrders
      (opposes_compareDocuments hjson fields))
    exact ⟨fun hsorted => hsorted.unique harranges, fun heq => heq ▸ harranges⟩

/-- A document with one field. -/
def holding (value : Value) : Document :=
  [("v", value)]

theorem isJson_holding {value : Value} (h : value.IsJson) :
    (Value.object (holding value)).IsJson :=
  .object (by simp [Keyed.keys, holding]) (by simpa [holding] using h)

/-- Documents with values of all types, of which some have no order. -/
def mixed : List Document :=
  [holding (.text "b"), holding (.object []), holding (.int 2), holding (.list []),
    holding (.bool true), holding .null, holding (.text "B")]

theorem orders_by_fields_mixed :
    (∀ doc ∈ mixed, (Value.object doc).IsJson) ∧ OrdersByFields mixed ∧
      Value.Uncrossed (valuesOf mixed "v") ∧
      (sortDocuments mixed [⟨"v", true⟩]).map (fun doc => (doc.get "v").shown) =
        ["b", "B", "[]", "2", "\x7b\x7d", "True", "None"] := by
  have hjson : ∀ doc ∈ mixed, (Value.object doc).IsJson := by
    simp only [mixed, List.forall_mem_cons, List.not_mem_nil, false_implies, implies_true, and_true]
    exact ⟨isJson_holding (.text _), isJson_holding (.object (by simp [Keyed.keys]) (by simp)),
      isJson_holding (.int _), isJson_holding (.list (by simp)), isJson_holding (.bool _),
      isJson_holding .null, isJson_holding (.text _)⟩
  refine ⟨hjson, orders_by_fields mixed hjson, by decide +kernel, by decide +kernel⟩

/-- A document with a truth value and a number of its own. -/
def numbered (n : Int) : Document :=
  [("v", .bool true), ("n", .int n)]

/-- Documents with values that cross: objects stand between true and zero. -/
def crossing : List Document :=
  [holding (.object []), holding (.object []), holding (.object []), holding (.object []),
    holding (.int 0), numbered 1, holding (.int 2), numbered 2]

/-- True comes before an object, the object before zero, and zero before true; and two documents
that are no different change places when they are sorted among such. -/
theorem sortDocuments_crossing :
    (∀ doc ∈ crossing, (Value.object doc).IsJson) ∧
      compareDocuments [⟨"v", false⟩] (numbered 1) (holding (.object [])) = -1 ∧
      compareDocuments [⟨"v", false⟩] (holding (.object [])) (holding (.int 0)) = -1 ∧
      compareDocuments [⟨"v", false⟩] (numbered 1) (holding (.int 0)) = 1 ∧
      compareDocuments [⟨"v", false⟩] (numbered 1) (numbered 2) = 0 ∧
      (sortDocuments crossing [⟨"v", false⟩]).map (fun doc => (doc.get "n").shown) =
        ["2", "None", "None", "None", "None", "None", "1", "None"] := by
  have hobject : (Value.object []).IsJson := .object (by simp [Keyed.keys]) (by simp)
  have hnumbered (n : Int) : (Value.object (numbered n)).IsJson :=
    .object (by simp [Keyed.keys, numbered])
      (by simpa [numbered] using And.intro (Value.IsJson.bool true) (Value.IsJson.int n))
  have hjson : ∀ doc ∈ crossing, (Value.object doc).IsJson := by
    simp only [crossing, List.forall_mem_cons, List.not_mem_nil, false_implies, implies_true,
      and_true]
    exact ⟨isJson_holding hobject, isJson_holding hobject, isJson_holding hobject,
      isJson_holding hobject, isJson_holding (.int _), hnumbered 1, isJson_holding (.int _),
      hnumbered 2⟩
  exact ⟨hjson, by decide +kernel, by decide +kernel, by decide +kernel, by decide +kernel,
    by decide +kernel⟩

end Docbase
