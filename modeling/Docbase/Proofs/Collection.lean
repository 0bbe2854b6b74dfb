import Docbase.Storage.Collection
import Mathlib.Data.List.Basic

/-! # What a collection finds and changes

The documents of a collection are stored under the identifiers that they carry, and no two under
equal ones. That is what makes looking an identifier up as good as going through all documents, and
every operation on documents keeps it.
-/

namespace Docbase

variable {α : Type}

theorem replaceFirst_eq_modify (test : α → Bool) (new : α → α) (items : List α) :
    replaceFirst test new items = items.modify (items.findIdx test) new := by
  induction items with
  | nil => rfl
  | cons item rest ih =>
      rw [replaceFirst, List.findIdx_cons]
      cases test item with
      | true => simp
      | false => simp [ih]

theorem replaceFirst_append {test : α → Bool} {before : List α} {old : α}
    (hbefore : ∀ item ∈ before, test item = false) (hold : test old = true) (new : α → α)
    (after : List α) :
    replaceFirst test new (before ++ old :: after) = before ++ new old :: after := by
  induction before with
  | nil => simp [replaceFirst, hold]
  | cons item rest ih =>
      rw [List.forall_mem_cons] at hbefore
      simp [replaceFirst, hbefore.1, ih hbefore.2]

theorem find?_replaceFirst {test : α → Bool} {new : α → α} {items : List α} {old : α}
    (h : items.find? test = some old) (hnew : test (new old) = true) :
    (replaceFirst test new items).find? test = some (new old) := by
  obtain ⟨hold, before, after, rfl, hbefore⟩ := List.find?_eq_some_iff_append.mp h
  rw [replaceFirst_append (by simpa using hbefore) hold, List.find?_append,
    List.find?_eq_none.mpr (by simpa using hbefore), List.find?_cons, hnew]
  rfl

theorem removeFirst_eq_eraseP (test : α → Bool) (items : List α) :
    removeFirst test items = items.eraseP test := by
  induction items with
  | nil => rfl
  | cons item rest ih =>
      rw [removeFirst, List.eraseP_cons, ih]
      cases test item <;> rfl

theorem map_modify {β : Type} {f : α → β} {new : α → α} {new' : β → β}
    (h : ∀ item, f (new item) = new' (f item)) (items : List α) (n : Nat) :
    (items.modify n new).map f = (items.map f).modify n new' := by
  induction items generalizing n with
  | nil => simp
  | cons item rest ih =>
      cases n with
      | zero => simp [h]
      | succ n => simp [ih]

theorem mem_modify {items : List α} {n : Nat} {new : α → α} {item : α}
    (h : item ∈ items.modify n new) : item ∈ items ∨ ∃ old ∈ items, item = new old := by
  induction items generalizing n with
  | nil => simp at h
  | cons first rest ih =>
      cases n with
      | zero =>
          rw [List.modify_zero_cons, List.mem_cons] at h
          rcases h with rfl | hrest
          · exact .inr ⟨first, List.mem_cons_self, rfl⟩
          · exact .inl (List.mem_cons_of_mem _ hrest)
      | succ n =>
          rw [List.modify_succ_cons, List.mem_cons] at h
          rcases h with rfl | hrest
          · exact .inl List.mem_cons_self
          · rcases ih hrest with hold | ⟨old, hold, rfl⟩
            · exact .inl (List.mem_cons_of_mem _ hold)
            · exact .inr ⟨old, List.mem_cons_of_mem _ hold, rfl⟩

/-- Where at most one item passes a test, keeping the items that pass finds the first of them. -/
theorem filter_eq_find?_toList {test : α → Bool} {items : List α}
    (h : items.Pairwise fun a b => ¬(test a = true ∧ test b = true)) :
    items.filter test = (items.find? test).toList := by
  induction items with
  | nil => rfl
  | cons item rest ih =>
      obtain ⟨hitem, hrest⟩ := List.pairwise_cons.mp h
      rw [List.filter_cons, List.find?_cons]
      cases htest : test item with
      | false => simpa using ih hrest
      | true =>
          have hnone : rest.filter test = [] := by
            rw [List.filter_eq_nil_iff]
            exact fun other hother hpasses => hitem other hother ⟨htest, hpasses⟩
          simp [hnone]

/-! ## Conditions and the identifiers that they pin -/

theorem Value.eq_text_iff {value : Value} {s : String} :
    Value.eq value (.text s) = true ↔ value = .text s := by
  cases value <;> simp [Value.eq, Value.isNull, Value.samePlace, Value.place?]

theorem Value.samePlace_comm (a b : Value) : samePlace a b = samePlace b a := by
  unfold Value.samePlace
  cases a.place? <;> cases b.place?
  case some.some => exact BEq.comm
  all_goals rfl

theorem Value.sameKind_text_iff {value : Value} {s : String} :
    value.sameKind (.text s) = true ↔ value = .text s := by
  cases value with
  | bool b => simp [Value.sameKind]
  | _ => simp only [Value.sameKind, Value.eq_text_iff]

theorem Condition.allHold_eq_all (value : Value) (conditions : List Condition) :
    Condition.allHold value conditions = conditions.all (Condition.holds value) := by
  induction conditions with
  | nil => rfl
  | cons condition rest ih => rw [Condition.allHold, List.all_cons, ih]

theorem Filter.holds_eq_all (filter : Filter) (doc : Document) :
    filter.holds doc = filter.all (Clause.holds doc) := by
  unfold Filter.holds
  induction filter with
  | nil => rfl
  | cons clause rest ih => rw [Clause.allHold, List.all_cons, ih]

/-- A filter that pins an identifier holds of documents that carry it only. -/
theorem Filter.get_idKey_of_pinned {filter : Filter} {id : String} {doc : Document}
    (hpinned : filter.pinned? = some id) (hholds : filter.holds doc = true) :
    doc.get idKey = .text id := by
  obtain ⟨clause, hclause, hfound⟩ := List.exists_of_findSome?_eq_some hpinned
  rw [Filter.holds_eq_all, List.all_eq_true] at hholds
  have hclauseHolds := hholds clause hclause
  cases clause with
  | joined connective filters => cases hfound
  | field name conditions =>
      by_cases hname : name = idKey
      · subst hname
        simp only [↓reduceIte] at hfound
        obtain ⟨condition, hcondition, hequal⟩ := List.exists_of_findSome?_eq_some hfound
        rw [Clause.holds, Condition.allHold_eq_all, List.all_eq_true] at hclauseHolds
        have hconditionHolds := hclauseHolds condition hcondition
        split at hequal
        next pinned =>
          cases hequal
          exact Value.sameKind_text_iff.mp hconditionHolds
        next => cases hequal
      · simp [hname] at hfound

/-! ## Documents under their own identifiers -/

namespace Collection

/-- Every document is stored under the identifier that it carries, and no two are stored under
equal ones. -/
structure Indexed (stored : List Stored) : Prop where
  carried : ∀ found ∈ stored, found.2.get idKey = found.1
  distinct : (stored.map (·.1)).Pairwise fun a b => Value.eq a b = false

theorem Indexed.nil : Indexed [] where
  carried := by simp
  distinct := List.Pairwise.nil

/-- Only one entry can be found under a text. -/
theorem Indexed.pairwise_text {stored : List Stored} (h : Indexed stored) (id : String) :
    stored.Pairwise fun a b =>
      ¬(Value.eq a.1 (.text id) = true ∧ Value.eq b.1 (.text id) = true) := by
  refine (List.pairwise_map.mp h.distinct).imp ?_
  rintro a b hne ⟨ha, hb⟩
  rw [Value.eq_text_iff] at ha hb
  rw [ha, hb, Value.eq_text_iff.mpr rfl] at hne
  cases hne

/-- A document with the identifier that it carries. -/
def entry (doc : Document) : Stored :=
  (doc.get idKey, doc)

theorem Indexed.eq_map_entry {stored : List Stored} (h : Indexed stored) :
    stored = (stored.map (·.2)).map entry := by
  rw [List.map_map]
  conv_lhs => rw [← List.map_id stored]
  refine List.map_congr_left fun found hfound => ?_
  exact Prod.ext (h.carried found hfound).symm rfl

/-- Going by the identifier that a filter pins selects a document if the filter holds of it. -/
theorem selects_entry (filter : Filter) (doc : Document) :
    selects filter (entry doc) = filter.holds doc := by
  unfold selects
  split
  next id hpinned =>
    cases hholds : filter.holds doc with
    | false => simp [entry, hholds]
    | true =>
        have hid := Filter.get_idKey_of_pinned hpinned hholds
        simp [entry, hholds, hid, Value.eq_text_iff.mpr]
  next => rfl

/-- The documents that a filter selects are those that it holds of, whether it pins an identifier
or not. -/
theorem Indexed.matching_eq {c : Collection} (h : Indexed c.stored) (filter : Filter) :
    c.matching filter = c.stored.filter fun found => filter.holds found.2 := by
  unfold matching
  split
  next id hpinned =>
    rw [lookup?, ← filter_eq_find?_toList (h.pairwise_text id), List.filter_filter]
    refine List.filter_congr fun found hfound => ?_
    have hselects := selects_entry filter found.2
    rw [show entry found.2 = found from Prod.ext (h.carried found hfound) rfl] at hselects
    simp only [selects, hpinned] at hselects
    rw [Bool.and_comm, hselects]
  next => rfl

theorem Indexed.documents_matching {c : Collection} (h : Indexed c.stored) (filter : Filter) :
    (c.matching filter).map (·.2) = c.documents.filter filter.holds := by
  rw [h.matching_eq, documents, List.filter_map]
  rfl

theorem Indexed.isEmpty_matching {c : Collection} (h : Indexed c.stored) (filter : Filter) :
    (c.matching filter).isEmpty = !c.documents.any filter.holds := by
  have hmatching := congrArg List.isEmpty (h.documents_matching filter)
  rw [List.isEmpty_map] at hmatching
  rw [hmatching, Bool.eq_iff_iff]
  simp

theorem Indexed.findOne_eq {c : Collection} (h : Indexed c.stored) (filter : Filter) :
    c.findOne filter = c.documents.find? filter.holds := by
  rw [findOne, ← List.head?_map, h.documents_matching, List.head?_filter]

/-- A search without an order and a page finds all that its filter selects. -/
theorem Indexed.find_eq {c : Collection} (h : Indexed c.stored) (filter : Filter) :
    c.find { filter } = .ok (c.documents.filter filter.holds) := by
  rw [find, h.documents_matching]
  rfl

/-! ## What operations keep -/

/-- An insertion that succeeds is of an identifier that cannot change and is free; the document,
with the identifier in it, goes to the end. -/
theorem insert_eq_ok {c after : Collection} {id : Value} {doc : Document} :
    c.insert id doc = .ok after ↔ id.isMutable = false ∧ c.lookup? id = none ∧
      { c with stored := c.stored ++ [(id, Keyed.put doc idKey id)] } = after := by
  unfold Collection.insert
  split
  next hmutable => simp [hmutable]
  next hfixed =>
    split
    next hused => simp [Option.ne_none_iff_isSome.mpr hused]
    next hfree =>
      have hnone : c.lookup? id = none := by simpa using hfree
      simp [hfixed, hnone]

theorem Indexed.insert {c after : Collection} {id : Value} {doc : Document}
    (h : Indexed c.stored) (hinsert : c.insert id doc = .ok after) : Indexed after.stored := by
  obtain ⟨-, hfree, rfl⟩ := insert_eq_ok.mp hinsert
  refine ⟨?_, ?_⟩
  · intro entry hentry
    rcases List.mem_append.mp hentry with hold | hnew
    · exact h.carried entry hold
    · rw [List.mem_singleton] at hnew
      subst hnew
      simp [Document.get, Keyed.get?_put_self]
  · rw [List.map_append, List.pairwise_append]
    refine ⟨h.distinct, List.pairwise_singleton _ _, ?_⟩
    intro old hold new hnew
    obtain ⟨entry, hentry, rfl⟩ := List.mem_map.mp hold
    rw [List.map_singleton, List.mem_singleton] at hnew
    rw [hnew]
    simpa using List.find?_eq_none.mp hfree entry hentry

/-- Changes leave every document where it is, under the identifier that it has. -/
theorem Indexed.replaceFirst {stored : List Stored} (h : Indexed stored) (test : Stored → Bool)
    (changes : Document) : Indexed (replaceFirst test (changed changes) stored) := by
  rw [replaceFirst_eq_modify]
  refine ⟨?_, ?_⟩
  · intro entry hentry
    rcases mem_modify hentry with hold | ⟨old, _, rfl⟩
    · exact h.carried entry hold
    · simp [changed, Document.get, Keyed.get?_put_self]
  · have hkeys : (stored.modify (stored.findIdx test) (changed changes)).map (·.1) =
        stored.map (·.1) := by
      have hfirst : ∀ found, (changed changes found).1 = id found.1 := fun _ => rfl
      rw [map_modify hfirst, List.modify_id]
    rw [hkeys]
    exact h.distinct

theorem Indexed.removeFirst {stored : List Stored} (h : Indexed stored) (test : Stored → Bool) :
    Indexed (removeFirst test stored) := by
  rw [removeFirst_eq_eraseP]
  refine ⟨fun entry hentry => h.carried entry (List.mem_of_mem_eraseP hentry), ?_⟩
  exact h.distinct.sublist (List.eraseP_sublist.map _)

end Collection

end Docbase
