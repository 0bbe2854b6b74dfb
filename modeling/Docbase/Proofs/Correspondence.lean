import Docbase.Proofs.Meaning
import Docbase.Proofs.ValueOrder

/-! # Equality by structure

Equality takes values for the same that have one structure and the same leaves, where truth values
count as one and zero. A filter keeps truth values apart from numbers, but does not look for them
inside lists and objects. So it takes for equal what is the same down to the leaves, and also what
differs in nothing but truth values that stand there against the numbers that they count as.
-/

namespace Docbase

section

variable {α β : Type} {R S : α → β → Prop}

theorem forall₂_congr_of_zip {xs : List α} {ys : List β}
    (h : ∀ x y, (x, y) ∈ xs.zip ys → (R x y ↔ S x y)) :
    List.Forall₂ R xs ys ↔ List.Forall₂ S xs ys := by
  rw [List.forall₂_iff_zip, List.forall₂_iff_zip]
  exact and_congr_right fun _ => forall₃_congr h

theorem forall₂_and_iff {xs : List α} {ys : List β} :
    List.Forall₂ (fun x y => R x y ∧ S x y) xs ys ↔
      List.Forall₂ R xs ys ∧ ∀ x y, (x, y) ∈ xs.zip ys → S x y := by
  simp only [List.forall₂_iff_zip, forall_and, and_assoc]

theorem optionRel_iff {o : Option α} {p : Option β} :
    Option.Rel R o p ↔ o.isSome = p.isSome ∧ ∀ x ∈ o, ∀ y ∈ p, R x y := by
  constructor
  · intro h
    cases h with
    | none => simp
    | some hxy => simpa using hxy
  · rintro ⟨hsome, h⟩
    cases o with
    | none =>
        cases p with
        | none => exact .none
        | some y => cases hsome
    | some x =>
        cases p with
        | none => cases hsome
        | some y => exact .some (h x rfl y rfl)

end

theorem Double.placeOfInt_inj {m n : Int} (h : placeOfInt m = placeOfInt n) : m = n := by
  have hone : (one : Int) ≠ 0 := Int.natCast_ne_zero.mpr one_pos.ne'
  exact Int.eq_of_mul_eq_mul_right hone (Place.level.inj h)

namespace Value

/-- Whether a value is a truth value. -/
def isTruthValue : Value → Bool
  | bool _ => true
  | _ => false

/-- Two values are numbers at the same place, truth values counting as one and zero. -/
def SameNumber (a b : Value) : Prop :=
  ∃ place, a.place? = some place ∧ b.place? = some place

/-- Two leaves are the same: one value, or one number that is no truth value. -/
def SameLeaf (a b : Value) : Prop :=
  a = b ∨ SameNumber a b ∧ a.isTruthValue = false ∧ b.isTruthValue = false

/-- Two leaves count as the same: they are one value or one number. -/
def CountsAs (a b : Value) : Prop :=
  a = b ∨ SameNumber a b

/-- Two values have one structure, and their leaves, which are neither lists nor objects, correspond
to each other. Objects correspond key by key, in whatever order. -/
inductive Matches (leaves : Value → Value → Prop) : Value → Value → Prop
  | leaf {a b : Value} (ha : a.isMutable = false) (hb : b.isMutable = false) (h : leaves a b) :
      Matches leaves a b
  | list {xs ys : List Value} (h : List.Forall₂ (Matches leaves) xs ys) :
      Matches leaves (.list xs) (.list ys)
  | object {fs gs : List (String × Value)}
      (h : ∀ key, Option.Rel (Matches leaves) (Keyed.get? fs key) (Keyed.get? gs key)) :
      Matches leaves (.object fs) (.object gs)

/-- A truth value stands against the number that it counts as, at the same place of two values. -/
inductive Mixes : Value → Value → Prop
  | leaf {a b : Value} (h : SameNumber a b) (htruth : a.isTruthValue ≠ b.isTruthValue) : Mixes a b
  | item {xs ys : List Value} {a b : Value} (hpair : (a, b) ∈ xs.zip ys) (h : Mixes a b) :
      Mixes (.list xs) (.list ys)
  | field {fs gs : List (String × Value)} {key : String} {a b : Value}
      (ha : Keyed.get? fs key = some a) (hb : Keyed.get? gs key = some b) (h : Mixes a b) :
      Mixes (.object fs) (.object gs)

/-! ## What corresponds to a value -/

section

variable {leaves : Value → Value → Prop} {a b : Value} {xs ys : List Value}
  {fs gs : List (String × Value)}

theorem matches_leaf_iff (ha : a.isMutable = false) :
    Matches leaves a b ↔ b.isMutable = false ∧ leaves a b := by
  constructor
  · intro h
    cases h with
    | leaf _ hb hleaves => exact ⟨hb, hleaves⟩
    | list => cases ha
    | object => cases ha
  · rintro ⟨hb, h⟩
    exact .leaf ha hb h

theorem matches_list_iff : Matches leaves (.list xs) b ↔
    ∃ ys, b = .list ys ∧ List.Forall₂ (Matches leaves) xs ys := by
  constructor
  · intro h
    cases h with
    | leaf ha => cases ha
    | list h => exact ⟨_, rfl, h⟩
  · rintro ⟨ys, rfl, h⟩
    exact .list h

theorem matches_object_iff : Matches leaves (.object fs) b ↔ ∃ gs, b = .object gs ∧
    ∀ key, Option.Rel (Matches leaves) (Keyed.get? fs key) (Keyed.get? gs key) := by
  constructor
  · intro h
    cases h with
    | leaf ha => cases ha
    | object h => exact ⟨_, rfl, h⟩
  · rintro ⟨gs, rfl, h⟩
    exact .object h

theorem SameNumber.isNumeric (h : SameNumber a b) : a.isNumeric = true ∧ b.isNumeric = true := by
  obtain ⟨place, ha, hb⟩ := h
  exact ⟨isNumeric_of_place? ha, isNumeric_of_place? hb⟩

theorem isMutable_of_isNumeric (h : a.isNumeric = true) : a.isMutable = false := by
  cases a <;> first | rfl | cases h

theorem mixes_leaf_iff (ha : a.isMutable = false) :
    Mixes a b ↔ SameNumber a b ∧ a.isTruthValue ≠ b.isTruthValue := by
  constructor
  · intro h
    cases h with
    | leaf h htruth => exact ⟨h, htruth⟩
    | item => cases ha
    | field => cases ha
  · rintro ⟨h, htruth⟩
    exact .leaf h htruth

theorem mixes_list_iff :
    Mixes (.list xs) (.list ys) ↔ ∃ x y, (x, y) ∈ xs.zip ys ∧ Mixes x y := by
  constructor
  · intro h
    cases h with
    | leaf h => obtain ⟨_, hplace, -⟩ := h; cases hplace
    | item hpair h => exact ⟨_, _, hpair, h⟩
  · rintro ⟨x, y, hpair, h⟩
    exact .item hpair h

theorem mixes_object_iff : Mixes (.object fs) (.object gs) ↔
    ∃ key x y, Keyed.get? fs key = some x ∧ Keyed.get? gs key = some y ∧ Mixes x y := by
  constructor
  · intro h
    cases h with
    | leaf h => obtain ⟨_, hplace, -⟩ := h; cases hplace
    | field hx hy h => exact ⟨_, _, _, hx, hy, h⟩
  · rintro ⟨key, x, y, hx, hy, h⟩
    exact .field hx hy h

end

/-! ## Equality -/

section

variable {a b : Value}

theorem isMutable_of_countsAs (ha : a.isMutable = false) (h : CountsAs a b) :
    b.isMutable = false := by
  rcases h with rfl | h
  · exact ha
  · exact isMutable_of_isNumeric h.isNumeric.2

theorem IsJson.eq_leaf_iff (ha : a.IsJson) (hplain : a.isMutable = false) :
    eq a b = true ↔ CountsAs a b := by
  induction ha using IsJson.numberInduction with
  | null =>
      rw [null_eq_iff]
      refine ⟨fun h => .inl h.symm, ?_⟩
      rintro (h | ⟨_, ⟨⟩, -⟩)
      exact h.symm
  | number a ha p hp =>
      rw [eq_iff_of_place? hp]
      refine ⟨fun hb => .inr ⟨p, hp, hb⟩, ?_⟩
      rintro (rfl | ⟨_, ha, hb⟩)
      · exact hp
      · rw [hb, ← ha, hp]
  | text s =>
      rw [text_eq_iff]
      refine ⟨fun h => .inl h.symm, ?_⟩
      rintro (h | ⟨_, ⟨⟩, -⟩)
      exact h.symm
  | list => cases hplain
  | object => cases hplain

theorem IsJson.object_eq_iff {fs : List (String × Value)} (hkeys : (Keyed.keys fs).Nodup)
    (hb : b.IsJson) : eq (.object fs) b = true ↔ ∃ gs, b = .object gs ∧
      ∀ key, Option.Rel (fun x y => eq x y = true) (Keyed.get? fs key) (Keyed.get? gs key) := by
  constructor
  · intro h
    obtain ⟨gs, rfl⟩ := exists_object_of_eq h
    cases hb with
    | object hkeys' => exact ⟨gs, rfl, (eq_object_iff hkeys hkeys').mp h⟩
  · rintro ⟨gs, rfl, h⟩
    cases hb with
    | object hkeys' => exact (eq_object_iff hkeys hkeys').mpr h

theorem IsJson.of_key {fields : List (String × Value)} {key : String} {value : Value}
    (h : IsJson (.object fields)) (hget : Keyed.get? fields key = some value) : value.IsJson := by
  cases h with
  | object hkeys hfields => exact .of_get? hfields hget

/-- Values of JSON are equal when they have one structure and leaves that count as the same. -/
theorem IsJson.eq_iff_matches (ha : a.IsJson) (hb : b.IsJson) :
    eq a b = true ↔ Matches CountsAs a b := by
  have hleaf {a b : Value} (ha : a.IsJson) (hplain : a.isMutable = false) :
      eq a b = true ↔ Matches CountsAs a b := by
    rw [matches_leaf_iff hplain, ha.eq_leaf_iff hplain]
    exact (and_iff_right_of_imp (isMutable_of_countsAs hplain)).symm
  induction ha generalizing b with
  | list hitems ih =>
      rw [list_eq_iff, matches_list_iff]
      refine exists_congr fun ys => and_congr_right ?_
      rintro rfl
      exact forall₂_congr_of_zip fun x y hpair =>
        ih x (List.of_mem_zip hpair).1 (hb.of_mem y (List.of_mem_zip hpair).2)
  | object hkeys hfields ih =>
      rw [hb.object_eq_iff hkeys, matches_object_iff]
      refine exists_congr fun gs => and_congr_right ?_
      rintro rfl
      refine forall_congr' fun key => ?_
      rw [optionRel_iff, optionRel_iff]
      refine and_congr_right fun _ => forall₂_congr fun x hx => forall₂_congr fun y hy => ?_
      exact ih _ (Keyed.mem_of_get?_eq_some hx) (hb.of_key hy)
  | null => exact hleaf .null rfl
  | bool x => exact hleaf (.bool x) rfl
  | int n => exact hleaf (.int n) rfl
  | double hproper hnumber => exact hleaf (.double hproper hnumber) rfl
  | text s => exact hleaf (.text s) rfl

theorem bool_place?_inj {x y : Bool} (h : (bool x).place? = (bool y).place?) : x = y := by
  have hnumber := Double.placeOfInt_inj (Option.some.inj h)
  cases x <;> cases y <;> first | rfl | cases hnumber

/-- Truth values at the same place are the same. -/
theorem eq_of_isTruthValue (h : SameNumber a b) (ha : a.isTruthValue = true)
    (hb : b.isTruthValue = true) : a = b := by
  obtain ⟨place, hx, hy⟩ := h
  cases a with
  | bool x =>
      cases b with
      | bool y => rw [bool_place?_inj (hx.trans hy.symm)]
      | _ => cases hb
  | _ => cases ha

/-- Leaves that count as the same are the same, unless one of them is a truth value and the other
one the number that it counts as. -/
theorem sameLeaf_iff : SameLeaf a b ↔
    CountsAs a b ∧ ¬(SameNumber a b ∧ a.isTruthValue ≠ b.isTruthValue) := by
  constructor
  · rintro (rfl | ⟨h, ha, hb⟩)
    · exact ⟨.inl rfl, fun h => h.2 rfl⟩
    · exact ⟨.inr h, fun h => h.2 (ha.trans hb.symm)⟩
  · rintro ⟨rfl | h, hnot⟩
    · exact .inl rfl
    · have htruth : a.isTruthValue = b.isTruthValue := not_not.mp fun hne => hnot ⟨h, hne⟩
      cases ha : a.isTruthValue with
      | false => exact .inr ⟨h, ha, htruth.symm.trans ha⟩
      | true => exact .inl (eq_of_isTruthValue h ha (htruth.symm.trans ha))

theorem IsJson.matches_sameLeaf_iff (ha : a.IsJson) :
    Matches SameLeaf a b ↔ Matches CountsAs a b ∧ ¬Mixes a b := by
  have hleaf {a b : Value} (hplain : a.isMutable = false) :
      Matches SameLeaf a b ↔ Matches CountsAs a b ∧ ¬Mixes a b := by
    rw [matches_leaf_iff hplain, matches_leaf_iff hplain, mixes_leaf_iff hplain, sameLeaf_iff,
      and_assoc]
  induction ha generalizing b with
  | list hitems ih =>
      simp only [matches_list_iff, ← exists_and_right, and_assoc]
      refine exists_congr fun ys => and_congr_right ?_
      rintro rfl
      rw [forall₂_congr_of_zip fun x y hpair => ih x (List.of_mem_zip hpair).1,
        forall₂_and_iff, mixes_list_iff]
      simp
  | @object fs hkeys hfields ih =>
      simp only [matches_object_iff, ← exists_and_right, and_assoc]
      refine exists_congr fun gs => and_congr_right ?_
      rintro rfl
      have hfield {key : String} {x y : Value} (hx : x ∈ Keyed.get? fs key) :=
        ih (key, x) (Keyed.mem_of_get?_eq_some hx) (b := y)
      simp only [optionRel_iff, mixes_object_iff]
      constructor
      · intro h
        refine ⟨fun key => ⟨(h key).1, fun x hx y hy =>
          ((hfield hx).mp ((h key).2 x hx y hy)).1⟩, ?_⟩
        rintro ⟨key, x, y, hx, hy, hmixes⟩
        exact ((hfield hx).mp ((h key).2 x hx y hy)).2 hmixes
      · rintro ⟨h, hnot⟩ key
        refine ⟨(h key).1, fun x hx y hy => (hfield hx).mpr ⟨(h key).2 x hx y hy, ?_⟩⟩
        exact fun hmixes => hnot ⟨key, x, y, hx, hy, hmixes⟩
  | _ => exact hleaf rfl

/-- A filter takes values for equal that are, and that are both truth values or both none. -/
theorem sameKind_iff_eq :
    a.sameKind b = true ↔ eq a b = true ∧ a.isTruthValue = b.isTruthValue := by
  cases a with
  | bool x =>
      cases b with
      | bool y =>
          rw [sameKind, beq_iff_eq, eq_eq_samePlace (.inl rfl), samePlace_iff]
          refine ⟨?_, ?_⟩
          · rintro rfl
            exact ⟨⟨Double.placeOfInt (if x then 1 else 0), rfl, rfl⟩, rfl⟩
          · rintro ⟨⟨place, hx, hy⟩, -⟩
            exact bool_place?_inj (hx.trans hy.symm)
      | _ => simp [sameKind, isTruthValue]
  | _ => cases b <;> simp [sameKind, isTruthValue]

/-- What is the same down to the leaves is taken for equal. -/
theorem isTruthValue_eq_of_matches (h : Matches SameLeaf a b) :
    a.isTruthValue = b.isTruthValue := by
  cases h with
  | leaf ha hb h =>
      rcases h with rfl | ⟨-, hx, hy⟩
      · rfl
      · rw [hx, hy]
  | list => rfl
  | object => rfl

theorem IsJson.matches_iff (ha : a.IsJson) (hb : b.IsJson) :
    Matches SameLeaf a b ↔ a.sameKind b = true ∧ ¬Mixes a b := by
  rw [sameKind_iff_eq, ha.eq_iff_matches hb]
  constructor
  · intro h
    obtain ⟨hcounts, hnot⟩ := ha.matches_sameLeaf_iff.mp h
    exact ⟨⟨hcounts, isTruthValue_eq_of_matches h⟩, hnot⟩
  · rintro ⟨⟨hcounts, -⟩, hnot⟩
    exact ha.matches_sameLeaf_iff.mpr ⟨hcounts, hnot⟩

end

/-- The filter that asks one question about a field. -/
def asking (field operator : String) (operand : Value) : Value :=
  .object [(field, .object [(operator, operand)])]

end Value

/-! ## Filters that ask for equality -/

section

variable {field key : String} {operator : Operator} {operand : Value} (doc : Document)

theorem Document.satisfies_single (hfield : Connective.ofKey? field = none) (given : Value) :
    doc.satisfies (.object [(field, given)]) =
      (Filter.readField field given).map (Condition.allHold (doc.get field)) := by
  rw [satisfies, Filter.read_single hfield]
  cases Filter.readField field given with
  | error fault => rfl
  | ok conditions => exact congrArg Except.ok (Filter.holds_single field conditions doc)

theorem Document.satisfies_bare (hfield : Connective.ofKey? field = none)
    (hplain : operand.isExpression = false) :
    doc.satisfies (.object [(field, operand)]) = .ok ((doc.get field).sameKind operand) := by
  rw [doc.satisfies_single hfield, Filter.readField_of_plain hplain]
  simp [Except.map, Condition.allHold, Condition.holds]

theorem Operator.ne_optionsKey (hkey : Operator.ofKey? key = some operator) :
    key ≠ optionsKey := by
  rintro rfl
  cases hkey

theorem Filter.readField_asking (hkey : Operator.ofKey? key = some operator) :
    readField field (.object [(key, operand)]) =
      (readOperand field key .null (some operator) operand).map fun condition => [condition] := by
  have hoptions : Document.get [(key, operand)] optionsKey = .null := by
    have hkeys : (optionsKey == key) = false :=
      beq_false_of_ne (Operator.ne_optionsKey hkey).symm
    simp [Document.get, Keyed.get?, List.lookup_cons, hkeys]
  rw [readField, if_pos (by simp [isOperatorKey_of_ofKey? hkey]), hoptions,
    readConditions_cons (Operator.ne_optionsKey hkey), hkey, readConditions]
  cases readOperand field key .null (some operator) operand <;> rfl

/-- A document satisfies a filter of one question when the condition read from it holds. -/
theorem Document.satisfies_asking (operator : Operator) (hfield : Connective.ofKey? field = none)
    (hkey : Operator.ofKey? key = some operator) :
    doc.satisfies (Value.asking field key operand) =
      (Filter.readOperand field key .null (some operator) operand).map
        (Condition.holds (doc.get field)) := by
  rw [Value.asking, doc.satisfies_single hfield, Filter.readField_asking hkey]
  cases Filter.readOperand field key .null (some operator) operand with
  | error fault => rfl
  | ok condition => simp [Except.map, Condition.allHold]

end

/-- All questions of equality about a field follow one relation: values are equal when they have
one structure and leaves that count as the same, and both are truth values or none is. What that
lets through beyond values that are the same down to the leaves is truth values inside of them. -/
structure EquatesByStructure (field : String) : Prop where
  bare : ∀ (doc : Document) (operand : Value), operand.isExpression = false →
    doc.satisfies (.object [(field, operand)]) = .ok ((doc.get field).sameKind operand)
  equal : ∀ (doc : Document) (operand : Value),
    doc.satisfies (.asking field "$eq" operand) = .ok ((doc.get field).sameKind operand)
  unequal : ∀ (doc : Document) (operand : Value),
    doc.satisfies (.asking field "$ne" operand) = .ok (!(doc.get field).sameKind operand)
  among : ∀ (doc : Document) (operands : List Value),
    doc.satisfies (.asking field "$in" (.list operands)) =
      .ok (operands.any (doc.get field).sameKind)
  notAmong : ∀ (doc : Document) (operands : List Value),
    doc.satisfies (.asking field "$nin" (.list operands)) =
      .ok (!operands.any (doc.get field).sameKind)
  except : ∀ (doc : Document) (given : Value),
    doc.satisfies (.asking field "$not" given) =
      (doc.satisfies (.object [(field, given)])).map fun holds => !holds
  relation : ∀ a b : Value, a.IsJson → b.IsJson →
    (a.sameKind b = true ↔ Value.Matches Value.CountsAs a b ∧ a.isTruthValue = b.isTruthValue)
  exact : ∀ a b : Value, a.IsJson → b.IsJson →
    (Value.Matches Value.SameLeaf a b ↔ a.sameKind b = true ∧ ¬Value.Mixes a b)

/-- The five operators of equality, and values without an operator, ask for one and the same
relation. -/
theorem equates_by_structure {field : String} (hfield : Connective.ofKey? field = none) :
    EquatesByStructure field := by
  constructor
  case bare => exact fun doc operand hplain => doc.satisfies_bare hfield hplain
  case equal =>
    intro doc operand
    rw [doc.satisfies_asking .eq hfield rfl]
    rfl
  case unequal =>
    intro doc operand
    rw [doc.satisfies_asking .ne hfield rfl]
    rfl
  case among =>
    intro doc operands
    rw [doc.satisfies_asking .isIn hfield rfl]
    rfl
  case notAmong =>
    intro doc operands
    rw [doc.satisfies_asking .notIn hfield rfl]
    rfl
  case except =>
    intro doc given
    rw [doc.satisfies_asking .not hfield rfl, doc.satisfies_single hfield]
    rw [Filter.readOperand]
    cases Filter.readField field given with
    | error fault => rfl
    | ok conditions => simp [Except.map, Functor.map, Condition.holds]
  case relation =>
    intro a b ha hb
    rw [Value.sameKind_iff_eq, ha.eq_iff_matches hb]
  case exact => exact fun a b ha hb => ha.matches_iff hb

theorem equates_by_structure_v : Connective.ofKey? "v" = none ∧ EquatesByStructure "v" :=
  ⟨by decide, equates_by_structure (by decide)⟩

/-- A filter that asks for a list of the number one selects a list of a truth value. -/
theorem equates_truth_within :
    (Value.list [.bool true]).IsJson ∧ (Value.list [.int 1]).IsJson ∧
      Document.satisfies [("v", .list [.bool true])] (.object [("v", .list [.int 1])]) =
        .ok true ∧
      ¬Value.Matches Value.SameLeaf (.list [.bool true]) (.list [.int 1]) := by
  have htrue : (Value.list [.bool true]).IsJson :=
    .list (List.forall_mem_singleton.mpr (.bool true))
  have hone : (Value.list [.int 1]).IsJson := .list (List.forall_mem_singleton.mpr (.int 1))
  have hsame : (Value.list [.bool true]).sameKind (.list [.int 1]) = true := by decide +kernel
  refine ⟨htrue, hone, ?_, fun h => ?_⟩
  · rw [Document.satisfies_bare _ (by decide) rfl]
    exact congrArg Except.ok hsame
  · have hmixes : Value.Mixes (.list [.bool true]) (.list [.int 1]) :=
      .item (a := .bool true) (b := .int 1) (by simp)
        (.leaf ⟨Double.placeOfInt 1, rfl, rfl⟩ (by decide))
    exact ((htrue.matches_iff hone).mp h).2 hmixes

end Docbase
