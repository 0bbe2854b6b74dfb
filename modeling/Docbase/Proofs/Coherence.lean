import Docbase.Proofs.Correspondence
import Docbase.Proofs.Crossing

/-! # Order and equality in filters

A question about the order of two values that admits equality has the answer of the strict one, or
the values are equal. But the equality of filters is finer than that: it keeps truth values apart
from numbers. So a value can be at least and at most an operand without being larger, smaller or
equal, but only as a truth value against the number that it counts as.
-/

namespace Docbase

namespace Ordered

/-- The question that leaves equality out. -/
def strictly : Ordered → Ordered
  | less | atMost => less
  | greater | atLeast => greater

/-- Whether the answer is yes for equal values. -/
def admitsEqual : Ordered → Bool
  | less | greater => false
  | atMost | atLeast => true

variable (question : Ordered)

theorem ofPlaces_eq (p q : Double.Place) : question.ofPlaces p q =
    (question.strictly.ofPlaces p q || question.admitsEqual && p == q) := by
  cases question <;> simp [ofPlaces, strictly, admitsEqual]

theorem ofTexts_eq (s t : String) : question.ofTexts s t =
    (question.strictly.ofTexts s t || question.admitsEqual && s == t) := by
  cases question <;> simp [ofTexts, strictly, admitsEqual]

theorem ofSizes_eq (m n : Nat) : question.ofSizes m n =
    (question.strictly.ofSizes m n || question.admitsEqual && m == n) := by
  cases question <;> simp [ofSizes, strictly, admitsEqual] <;> grind

end Ordered

namespace Value

variable {a b : Value}

/-- A question that admits equality has the answer of the strict one, or the values are equal. -/
theorem IsJson.compare?_eq_map (ha : a.IsJson) (question : Ordered) (b : Value) :
    compare? question a b = (compare? question.strictly a b).map fun answer =>
      answer || question.admitsEqual && eq a b := by
  induction ha using IsJson.numberInduction generalizing b with
  | null => rfl
  | number a ha p hp =>
      have hnumeric := isNumeric_of_place? hp
      rw [compare?_of_isNumeric _ hnumeric, compare?_of_isNumeric _ hnumeric,
        eq_eq_samePlace (.inl hnumeric), compareNumbers, compareNumbers, samePlace, hp]
      cases hb : b.isNumeric with
      | false => rfl
      | true => cases b.place? <;> simp [question.ofPlaces_eq]
  | text s =>
      cases b with
      | text t => exact congrArg some (question.ofTexts_eq s t)
      | _ => rfl
  | list xs hxs ih =>
      cases b with
      | list ys =>
          rw [compare?_lists, compare?_lists, eq]
          induction xs generalizing ys with
          | nil =>
              cases ys with
              | nil => exact congrArg some (question.ofSizes_eq 0 0)
              | cons y ys => exact congrArg some (question.ofSizes_eq 0 (ys.length + 1))
          | cons x xs ih' =>
              cases ys with
              | nil => exact congrArg some (question.ofSizes_eq (xs.length + 1) 0)
              | cons y ys =>
                  simp only [List.forall_mem_cons] at hxs ih
                  rw [compareItems?_cons, compareItems?_cons, eqItems_cons]
                  cases hxy : eq x y with
                  | true => simpa using ih' hxs.2 ih.2 ys
                  | false => simpa [hxy] using ih.1 y
      | _ => rfl
  | object fields hkeys hfields ih => rfl

theorem IsJson.orderHolds_eq (ha : a.IsJson) (question : Ordered) (b : Value) :
    Condition.orderHolds question a b = (compare? question a b).getD false := by
  cases ha <;> cases b <;> rfl

/-- A question of order holds when the strict one does, or if it admits equality, of values that
are equal and have an order. -/
theorem IsJson.orderHolds_iff (ha : a.IsJson) (question : Ordered) (b : Value) :
    Condition.orderHolds question a b = true ↔ compare? question.strictly a b = some true ∨
      question.admitsEqual = true ∧ eq a b = true ∧ (compare? .less a b).isSome = true := by
  rw [ha.orderHolds_eq, ha.compare?_eq_map, ← ha.isSome_compare? question.strictly]
  cases compare? question.strictly a b <;> simp

/-- Equal values of which one is a truth value and the other one is none are one number. -/
theorem sameNumber_of_eq (h : eq a b = true) (htruth : a.isTruthValue ≠ b.isTruthValue) :
    SameNumber a b := by
  have hnumeric : a.isNumeric = true ∨ b.isNumeric = true := by
    cases a with
    | bool x => exact .inl rfl
    | _ =>
        cases b with
        | bool y => exact .inr rfl
        | _ => exact absurd rfl htruth
  rwa [eq_eq_samePlace hnumeric, samePlace_iff] at h

theorem eq_of_sameNumber (h : SameNumber a b) : eq a b = true := by
  rw [eq_eq_samePlace (.inl h.isNumeric.1)]
  exact samePlace_iff.mpr h

theorem isSome_compare?_of_isNumeric (ha : a.isNumeric = true) (hb : b.isNumeric = true) :
    (compare? .less a b).isSome = true := by
  rw [compare?_of_isNumeric _ ha, if_pos hb]
  rfl

/-- What holds of equal values that have an order, but is not strict and no equality of filters,
holds of a truth value and the number that it counts as. -/
theorem equal_only_iff {strict : Prop} (hstrict : strict → ¬eq a b = true) :
    (strict ∨ eq a b = true ∧ (compare? .less a b).isSome = true) ∧
        ¬(strict ∨ eq a b = true ∧ a.isTruthValue = b.isTruthValue) ↔
      SameNumber a b ∧ a.isTruthValue ≠ b.isTruthValue := by
  constructor
  · rintro ⟨h | ⟨heq, -⟩, hnot⟩
    · exact absurd (.inl h) hnot
    · have htruth : a.isTruthValue ≠ b.isTruthValue := fun h => hnot (.inr ⟨heq, h⟩)
      exact ⟨sameNumber_of_eq heq htruth, htruth⟩
  · rintro ⟨hnumber, htruth⟩
    have heq := eq_of_sameNumber hnumber
    have hsome := isSome_compare?_of_isNumeric hnumber.isNumeric.1 hnumber.isNumeric.2
    refine ⟨.inr ⟨heq, hsome⟩, ?_⟩
    rintro (h | ⟨-, h⟩)
    · exact hstrict h heq
    · exact htruth h

/-- Two values are both numbers but no truth values, or both texts. -/
def Comparable (a b : Value) : Prop :=
  (a.isNumeric = true ∧ b.isNumeric = true ∧ a.isTruthValue = false ∧ b.isTruthValue = false) ∨
    ∃ s t, a = .text s ∧ b = .text t

theorem Comparable.isSome (h : Comparable a b) : (compare? .less a b).isSome = true := by
  rcases h with ⟨ha, hb, -⟩ | ⟨s, t, rfl, rfl⟩
  · exact isSome_compare?_of_isNumeric ha hb
  · rfl

theorem Comparable.isTruthValue_eq (h : Comparable a b) : a.isTruthValue = b.isTruthValue := by
  rcases h with ⟨-, -, ha, hb⟩ | ⟨s, t, rfl, rfl⟩
  · rw [ha, hb]
  · rfl

end Value

/-! ## Filters that ask for order -/

/-- A document satisfies the filter that asks one question about a field. -/
def Document.Stands (doc : Document) (field operator : String) (operand : Value) : Prop :=
  doc.satisfies (.asking field operator operand) = .ok true

section

variable {doc : Document} {field key : String} {operand : Value}
  (hfield : Connective.ofKey? field = none) (hvalue : (doc.get field).IsJson)

namespace Document

include hfield

theorem stands_iff_orderHolds (question : Ordered)
    (hkey : Operator.ofKey? key = some (.order question)) :
    doc.Stands field key operand ↔
      Condition.orderHolds question (doc.get field) operand = true := by
  rw [Stands, doc.satisfies_asking _ hfield hkey, Filter.readOperand]
  simp [Except.map, Condition.holds]

theorem stands_equal_iff : doc.Stands field "$eq" operand ↔
    Value.eq (doc.get field) operand = true ∧
      (doc.get field).isTruthValue = operand.isTruthValue := by
  rw [Stands, doc.satisfies_asking .eq hfield rfl, Filter.readOperand,
    ← Value.sameKind_iff_eq]
  simp [Except.map, Condition.holds]

include hvalue

theorem stands_less_iff :
    doc.Stands field "$lt" operand ↔ Value.Below (doc.get field) operand := by
  rw [stands_iff_orderHolds hfield .less rfl, hvalue.orderHolds_iff]
  simp [Ordered.strictly, Ordered.admitsEqual, Value.Below]

theorem stands_atMost_iff : doc.Stands field "$lte" operand ↔
    Value.Below (doc.get field) operand ∨ Value.eq (doc.get field) operand = true ∧
      (Value.compare? .less (doc.get field) operand).isSome = true := by
  rw [stands_iff_orderHolds hfield .atMost rfl, hvalue.orderHolds_iff]
  simp [Ordered.strictly, Ordered.admitsEqual, Value.Below]

theorem stands_greater_iff (hoperand : operand.IsJson) :
    doc.Stands field "$gt" operand ↔ Value.Below operand (doc.get field) := by
  rw [stands_iff_orderHolds hfield .greater rfl, hvalue.orderHolds_iff]
  simp [Ordered.strictly, Ordered.admitsEqual, Value.Below, hvalue.compare?_greater hoperand]

theorem stands_atLeast_iff (hoperand : operand.IsJson) : doc.Stands field "$gte" operand ↔
    Value.Below operand (doc.get field) ∨ Value.eq (doc.get field) operand = true ∧
      (Value.compare? .less (doc.get field) operand).isSome = true := by
  rw [stands_iff_orderHolds hfield .atLeast rfl, hvalue.orderHolds_iff]
  simp [Ordered.strictly, Ordered.admitsEqual, Value.Below, hvalue.compare?_greater hoperand]

end Document

/-- The five questions of order and equality have an answer, and at most one of the strict ones and
equality holds. One of them holds if both values are numbers or both are texts. A value is at least
or at most the operand without any of them as a truth value against the number that it counts as,
or as such a number against a truth value, and in no other way. -/
structure OrderCoheres (doc : Document) (field : String) (operand : Value) : Prop where
  answered : ∀ operator ∈ ["$lt", "$lte", "$eq", "$gte", "$gt"],
    ∃ holds, doc.satisfies (.asking field operator operand) = .ok holds
  less_apart : doc.Stands field "$lt" operand →
    ¬doc.Stands field "$eq" operand ∧ ¬doc.Stands field "$gt" operand
  equal_apart : doc.Stands field "$eq" operand → ¬doc.Stands field "$gt" operand
  one : Value.Comparable (doc.get field) operand → doc.Stands field "$lt" operand ∨
    doc.Stands field "$eq" operand ∨ doc.Stands field "$gt" operand
  atLeast : doc.Stands field "$gte" operand ∧
      ¬(doc.Stands field "$gt" operand ∨ doc.Stands field "$eq" operand) ↔
    Value.SameNumber (doc.get field) operand ∧
      (doc.get field).isTruthValue ≠ operand.isTruthValue
  atMost : doc.Stands field "$lte" operand ∧
      ¬(doc.Stands field "$lt" operand ∨ doc.Stands field "$eq" operand) ↔
    Value.SameNumber (doc.get field) operand ∧
      (doc.get field).isTruthValue ≠ operand.isTruthValue

include hfield hvalue in
/-- The operators of order cohere with equality, but for truth values against the numbers that they
count as. -/
theorem order_coheres (hoperand : operand.IsJson) : OrderCoheres doc field operand := by
  have hnot_less : Value.Below (doc.get field) operand →
      ¬Value.eq (doc.get field) operand = true := hvalue.not_eq_of_below
  have hnot_greater : Value.Below operand (doc.get field) →
      ¬Value.eq (doc.get field) operand = true :=
    fun h heq => hoperand.not_eq_of_below h (hvalue.eq_symm hoperand heq)
  constructor
  case answered =>
    have hanswered {key : String} {condition : Condition} (operator : Operator)
        (hkey : Operator.ofKey? key = some operator)
        (hread : Filter.readOperand field key .null (some operator) operand = .ok condition) :
        ∃ holds, doc.satisfies (.asking field key operand) = .ok holds := by
      rw [doc.satisfies_asking operator hfield hkey, hread]
      exact ⟨_, rfl⟩
    simp only [List.forall_mem_cons]
    exact ⟨hanswered (.order .less) rfl rfl, hanswered (.order .atMost) rfl rfl,
      hanswered .eq rfl rfl, hanswered (.order .atLeast) rfl rfl,
      hanswered (.order .greater) rfl rfl, by simp⟩
  all_goals
    simp only [Document.stands_less_iff hfield hvalue, Document.stands_equal_iff hfield,
      Document.stands_greater_iff hfield hvalue hoperand,
      Document.stands_atLeast_iff hfield hvalue hoperand,
      Document.stands_atMost_iff hfield hvalue]
  case less_apart =>
    exact fun h => ⟨fun heq => hnot_less h heq.1, hvalue.not_below_of_below hoperand h⟩
  case equal_apart => exact fun heq h => hnot_greater h heq.1
  case one =>
    intro h
    rcases hvalue.below_trichotomy hoperand h.isSome with heq | hless | hmore
    · exact .inr (.inl ⟨heq, h.isTruthValue_eq⟩)
    · exact .inl hless
    · exact .inr (.inr hmore)
  case atLeast => exact Value.equal_only_iff hnot_greater
  case atMost => exact Value.equal_only_iff hnot_less

end

theorem order_coheres_truth :
    Connective.ofKey? "v" = none ∧ (Document.get [("v", .bool true)] "v").IsJson ∧
      (Value.int 1).IsJson ∧ OrderCoheres [("v", .bool true)] "v" (.int 1) :=
  ⟨by decide, .bool true, .int 1, order_coheres (by decide) (.bool true) (.int 1)⟩

/-- A truth value is at least the number that it counts as, but neither larger nor equal. -/
theorem truth_atLeast_only :
    Document.Stands [("v", .bool true)] "v" "$gte" (.int 1) ∧
      ¬(Document.Stands [("v", .bool true)] "v" "$gt" (.int 1) ∨
        Document.Stands [("v", .bool true)] "v" "$eq" (.int 1)) := by
  have hfield : Connective.ofKey? "v" = none := by decide
  have hvalue : (Document.get [("v", .bool true)] "v").IsJson := .bool true
  have hone : (Value.int 1).IsJson := .int 1
  rw [Document.stands_atLeast_iff hfield hvalue hone,
    Document.stands_greater_iff hfield hvalue hone, Document.stands_equal_iff hfield]
  unfold Value.Below
  decide +kernel

end Docbase
