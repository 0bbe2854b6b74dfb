import Docbase.Proofs.Pipelines

/-! # Searches that stall

A pattern is searched in the text of a value. A value that has none, since a number in it is too
long to be written, stalls the search. Whether it is come to depends on what is looked at before:
conditions and clauses are looked at as long as they hold, and filters as long as they do not decide
what their connective says.
-/

namespace Docbase

namespace Value

/-- A value cannot be written: the digits of an integer in it are too many. -/
inductive Unwritable : Value → Prop
  | int {n : Int} (hlong : Text.digitLimit < (Nat.toDigits 10 n.natAbs).length) :
      Unwritable (.int n)
  | item {items : List Value} {item : Value} (hitem : item ∈ items) (h : Unwritable item) :
      Unwritable (.list items)
  | field {fields : List (String × Value)} {field : String × Value} (hfield : field ∈ fields)
      (h : Unwritable field.2) : Unwritable (.object fields)

theorem unwritable_int_iff {n : Int} :
    Unwritable (.int n) ↔ Nat.pow 10 Text.digitLimit ≤ n.natAbs := by
  have hlong : Unwritable (.int n) ↔ Text.digitLimit < (Nat.toDigits 10 n.natAbs).length :=
    ⟨fun | .int hlong => hlong, .int⟩
  have hlimit : 0 < Text.digitLimit := by decide
  rw [hlong]
  -- The limit is left open, as its power must not be computed.
  generalize Text.digitLimit = limit at hlimit ⊢
  have hlength : (Nat.toDigits 10 n.natAbs).length ≤ limit ↔ n.natAbs < Nat.pow 10 limit :=
    Nat.length_toDigits_le_iff (by decide) hlimit
  rw [← Nat.not_le, hlength, Nat.not_lt]

mutual

theorem isWritable_eq_false_iff : ∀ value : Value, value.isWritable = false ↔ Unwritable value
  | .int n => by
      rw [isWritable, decide_eq_false_iff_not, Nat.not_lt]
      exact unwritable_int_iff.symm
  | .list items => by
      rw [isWritable, areWritable_eq_false_iff items]
      exact ⟨fun ⟨_, hitem, h⟩ => .item hitem h, fun | .item hitem h => ⟨_, hitem, h⟩⟩
  | .object fields => by
      rw [isWritable, haveWritable_eq_false_iff fields]
      exact ⟨fun ⟨_, hfield, h⟩ => .field hfield h, fun | .field hfield h => ⟨_, hfield, h⟩⟩
  | .null | .bool _ | .double _ | .text _ | .pattern _ | .leaf _ =>
      iff_of_false (by simp [isWritable]) nofun

theorem areWritable_eq_false_iff : ∀ items : List Value,
    areWritable items = false ↔ ∃ item ∈ items, Unwritable item
  | [] => by simp [areWritable]
  | item :: rest => by
      rw [areWritable, Bool.and_eq_false_iff, isWritable_eq_false_iff item,
        areWritable_eq_false_iff rest]
      simp

theorem haveWritable_eq_false_iff : ∀ fields : List (String × Value),
    haveWritable fields = false ↔ ∃ field ∈ fields, Unwritable field.2
  | [] => by simp [haveWritable]
  | (key, value) :: rest => by
      rw [haveWritable, Bool.and_eq_false_iff, isWritable_eq_false_iff value,
        haveWritable_eq_false_iff rest]
      simp

end

end Value

/-- Of things that are looked at in order, one is come to that stops: all before go on. -/
def ComesTo {α : Type} (goesOn stops : α → Prop) (items : List α) : Prop :=
  ∃ before item after, items = before ++ item :: after ∧ (∀ other ∈ before, goesOn other) ∧
    stops item

theorem not_comesTo_nil {α : Type} {goesOn stops : α → Prop} : ¬ComesTo goesOn stops [] := by
  rintro ⟨before, item, after, h, -, -⟩
  simp at h

theorem comesTo_cons_iff {α : Type} {goesOn stops : α → Prop} {first : α} {rest : List α} :
    ComesTo goesOn stops (first :: rest) ↔
      stops first ∨ goesOn first ∧ ComesTo goesOn stops rest := by
  constructor
  · rintro ⟨_ | ⟨_, before⟩, item, after, h, hbefore, hitem⟩
    · cases h
      exact .inl hitem
    · cases h
      obtain ⟨hfirst, hbefore⟩ := List.forall_mem_cons.mp hbefore
      exact .inr ⟨hfirst, before, item, after, rfl, hbefore, hitem⟩
  · rintro (hfirst | ⟨hfirst, before, item, after, rfl, hbefore, hitem⟩)
    · exact ⟨[], first, rest, rfl, by simp, hfirst⟩
    · exact ⟨first :: before, item, after, rfl, List.forall_mem_cons.mpr ⟨hfirst, hbefore⟩, hitem⟩

namespace Condition

/-- Looking at a condition, a search is come to that stalls. -/
inductive Stalls (value : Value) : Condition → Prop
  | matching {pattern : Pattern} (h : value.Unwritable) : Stalls value (.matching pattern)
  | except {before after : List Condition} {condition : Condition}
      (hbefore : ∀ other ∈ before, other.holds value = true) (h : Stalls value condition) :
      Stalls value (.except (before ++ condition :: after))

variable {value : Value}

mutual

theorem stalls_iff : ∀ condition : Condition,
    condition.stalls value = true ↔ condition.Stalls value
  | .matching _ => by
      rw [stalls, Bool.not_eq_true', Value.isWritable_eq_false_iff]
      exact ⟨.matching, fun | .matching h => h⟩
  | .except conditions => by
      rw [stalls, someStalls_iff conditions]
      constructor
      · rintro ⟨before, condition, after, rfl, hbefore, h⟩
        exact .except hbefore h
      · rintro ⟨⟩
        next hbefore h => exact ⟨_, _, _, rfl, hbefore, h⟩
  | .equal _ | .unequal _ | .ordered _ _ | .among _ | .notAmong _ =>
      iff_of_false (by simp [stalls]) nofun

theorem someStalls_iff : ∀ conditions : List Condition, someStalls value conditions = true ↔
    ComesTo (fun condition => condition.holds value = true) (Stalls value) conditions
  | [] => iff_of_false (by simp [someStalls]) not_comesTo_nil
  | condition :: rest => by
      rw [someStalls, Bool.or_eq_true, Bool.and_eq_true, stalls_iff condition,
        someStalls_iff rest, comesTo_cons_iff]

end

end Condition

namespace Clause

/-- Looking at a clause, a search is come to that stalls. -/
inductive Stalls (doc : Document) : Clause → Prop
  | field {name : String} {conditions : List Condition}
      (h : ComesTo (fun condition => condition.holds (doc.get name) = true)
        (Condition.Stalls (doc.get name)) conditions) : Stalls doc (.field name conditions)
  | and {before after : List Filter} {earlier later : Filter} {clause : Clause}
      (hbefore : ∀ other ∈ before, Filter.holds other doc = true)
      (hearlier : ∀ other ∈ earlier, other.holds doc = true) (h : Stalls doc clause) :
      Stalls doc (.joined .and (before ++ (earlier ++ clause :: later) :: after))
  | or {before after : List Filter} {earlier later : Filter} {clause : Clause}
      (hbefore : ∀ other ∈ before, Filter.holds other doc = false)
      (hearlier : ∀ other ∈ earlier, other.holds doc = true) (h : Stalls doc clause) :
      Stalls doc (.joined .or (before ++ (earlier ++ clause :: later) :: after))

end Clause

namespace Filter

/-- Looking at a document, a search is come to that stalls. -/
def Stalls (filter : Filter) (doc : Document) : Prop :=
  ComesTo (fun clause => clause.holds doc = true) (Clause.Stalls doc) filter

end Filter

namespace Clause

variable {doc : Document}

mutual

theorem stalls_iff : ∀ clause : Clause, clause.stalls doc = true ↔ clause.Stalls doc
  | .field name conditions => by
      rw [stalls, Condition.someStalls_iff]
      exact ⟨.field, fun | .field h => h⟩
  | .joined .and filters => by
      rw [stalls, stallsWhileHolding_iff filters]
      constructor
      · rintro ⟨before, _, after, rfl, hbefore, earlier, clause, later, rfl, hearlier, h⟩
        exact .and hbefore hearlier h
      · rintro ⟨⟩
        next hbefore hearlier h =>
          exact ⟨_, _, _, rfl, hbefore, _, _, _, rfl, hearlier, h⟩
  | .joined .or filters => by
      rw [stalls, stallsWhileFailing_iff filters]
      constructor
      · rintro ⟨before, _, after, rfl, hbefore, earlier, clause, later, rfl, hearlier, h⟩
        exact .or hbefore hearlier h
      · rintro ⟨⟩
        next hbefore hearlier h =>
          exact ⟨_, _, _, rfl, hbefore, _, _, _, rfl, hearlier, h⟩

theorem someStalls_iff : ∀ filter : List Clause,
    someStalls doc filter = true ↔ Filter.Stalls filter doc
  | [] => iff_of_false (by simp [someStalls]) not_comesTo_nil
  | clause :: rest => by
      rw [someStalls, Bool.or_eq_true, Bool.and_eq_true, stalls_iff clause, someStalls_iff rest,
        Filter.Stalls, Filter.Stalls, comesTo_cons_iff]

theorem stallsWhileHolding_iff : ∀ filters : List (List Clause),
    stallsWhileHolding doc filters = true ↔
      ComesTo (fun filter => Filter.holds filter doc = true) (Filter.Stalls · doc) filters
  | [] => iff_of_false (by simp [stallsWhileHolding]) not_comesTo_nil
  | filter :: rest => by
      rw [stallsWhileHolding, Bool.or_eq_true, Bool.and_eq_true, someStalls_iff filter,
        stallsWhileHolding_iff rest, comesTo_cons_iff]
      rfl

theorem stallsWhileFailing_iff : ∀ filters : List (List Clause),
    stallsWhileFailing doc filters = true ↔
      ComesTo (fun filter => Filter.holds filter doc = false) (Filter.Stalls · doc) filters
  | [] => iff_of_false (by simp [stallsWhileFailing]) not_comesTo_nil
  | filter :: rest => by
      rw [stallsWhileFailing, Bool.or_eq_true, Bool.and_eq_true, Bool.not_eq_true',
        someStalls_iff filter, stallsWhileFailing_iff rest, comesTo_cons_iff]
      rfl

end

end Clause

theorem Filter.stalls_iff {filter : Filter} {doc : Document} :
    filter.stalls doc = true ↔ filter.Stalls doc :=
  Clause.someStalls_iff filter

namespace Pipeline.Batch

/-- A stage stalls if it is to search what a grouping has made, and comes to a search that does. -/
theorem stalls_iff {batch : Batch} {spec : Value} : batch.stalls spec = true ↔
    batch.isMade = true ∧ ∃ sought filter, spec = .object [("$match", sought)] ∧
      Filter.read sought = .ok filter ∧ ∃ doc ∈ batch.docs, filter.Stalls doc := by
  constructor
  · intro h
    unfold stalls at h
    split at h
    next name sought =>
      simp only [Bool.and_eq_true, beq_iff_eq] at h
      obtain ⟨⟨hmade, rfl⟩, h⟩ := h
      split at h
      next filter hread =>
        obtain ⟨doc, hdoc, hstalls⟩ := List.any_eq_true.mp h
        exact ⟨hmade, sought, filter, rfl, hread, doc, hdoc, Filter.stalls_iff.mp hstalls⟩
      next => cases h
    next => cases h
  · rintro ⟨hmade, sought, filter, rfl, hread, doc, hdoc, hstalls⟩
    have hany : batch.docs.any filter.stalls = true :=
      List.any_eq_true.mpr ⟨doc, hdoc, Filter.stalls_iff.mpr hstalls⟩
    simp [stalls, hmade, hread, hany]

end Pipeline.Batch

end Docbase
