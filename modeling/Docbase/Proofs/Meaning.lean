import Docbase.Proofs.Refusals
import Docbase.Proofs.ValidSchema

/-! # What filters mean

The value that a filter is given as says what it asks for, without being read: all its entries have
to suit a document. An entry for a field asks the value there to meet what is given for the field,
which may be an expression of operators or anything else that is to be equal; the entry of a
connective asks for all or for some of the filters that it lists. Reading a filter keeps this
meaning, and fails only if something is wrong in the value, at whatever depth.
-/

namespace Docbase

/-- What the operand of a search and its options stand for: a pattern that is given as such, or the
one that a text is compiled to. -/
inductive Sought (options : Value) : Value → Pattern → Prop
  | given (sought : Pattern) : Sought options (.pattern sought) sought
  | compiled {source : String} {sought : Pattern}
      (h : Pattern.compile source (Filter.flagsOf options) = .ok sought) :
      Sought options (.text source) sought

theorem Sought.unique {options operand : Value} {sought other : Pattern}
    (h : Sought options operand sought) (hother : Sought options operand other) :
    sought = other := by
  cases h with
  | given => cases hother; rfl
  | compiled h =>
      cases hother with
      | compiled hother => exact Except.ok.inj (h.symm.trans hother)

theorem sizeOf_entry_lt {entries : Keyed Value} {entry : String × Value} (h : entry ∈ entries) :
    sizeOf entry.2 < sizeOf (Value.object entries) := by
  have hentry := List.sizeOf_lt_of_mem h
  rw [Prod.mk.sizeOf_spec] at hentry
  rw [Value.object.sizeOf_spec]
  omega

namespace Value

mutual

/-- Whether a value meets what is given for its field. -/
def Meets (value : Value) : Value → Prop
  | .object entries =>
    if entries.any fun entry => isOperatorKey entry.1 then
      ∀ entry ∈ entries, entry.1 ≠ optionsKey →
        Answers value (Document.get entries optionsKey) (Operator.ofKey? entry.1) entry.2
    else value.sameKind (.object entries) = true
  | .pattern sought => Condition.patternHolds sought value = true
  | given => value.sameKind given = true
termination_by given => (sizeOf given, 0)
decreasing_by exact .left _ _ (sizeOf_entry_lt ‹_›)

/-- Whether a value answers to an operator, if it is known, with an operand. -/
def Answers (value options : Value) : Option Operator → Value → Prop
  | none, operand | some .eq, operand => value.sameKind operand = true
  | some .ne, operand => value.sameKind operand = false
  | some (.order question), operand => Condition.orderHolds question value operand = true
  | some .isIn, operand =>
    ∃ items, operand = .list items ∧ ∃ item ∈ items, value.sameKind item = true
  | some .notIn, operand =>
    ∃ items, operand = .list items ∧ ∀ item ∈ items, value.sameKind item = false
  | some .regex, operand =>
    ∃ sought, Sought options operand sought ∧ Condition.patternHolds sought value = true
  | some .not, operand => ¬Meets value operand
termination_by _ operand => (sizeOf operand, 1)

end

end Value

namespace Document

mutual

/-- Whether a document suits what is given as a filter. -/
def Suits (doc : Document) : Value → Prop
  | .null => True
  | .object entries => ∀ entry ∈ entries, SuitsEntry doc entry.1 (Connective.ofKey? entry.1) entry.2
  | _ => False
termination_by filter => (sizeOf filter, 0)
decreasing_by exact .left _ _ (sizeOf_entry_lt ‹_›)

/-- Whether a document suits an entry of a filter, which is that of a connective or of a field. -/
def SuitsEntry (doc : Document) (key : String) : Option Connective → Value → Prop
  | none, given => (doc.get key).Meets given
  | some .and, .list filters => ∀ filter ∈ filters, Suits doc filter
  | some .or, .list filters => ∃ filter, ∃ _ : filter ∈ filters, Suits doc filter
  | some _, _ => False
termination_by _ given => (sizeOf given, 1)

end

end Document

namespace Filter

/-! ## What may be wrong -/

mutual

/-- Something is wrong in what is given for a field. -/
inductive FieldMistaken : Value → Prop
  | entry {entries : List (String × Value)} {entry : String × Value} (hentry : entry ∈ entries)
      (h : OperandMistaken (Document.get entries optionsKey) (Operator.ofKey? entry.1) entry.2) :
      FieldMistaken (.object entries)

/-- Something is wrong in the operand of an operator: it is no list of operands, it is no pattern
and cannot be compiled to one, or it is wrong as what is given for a field. -/
inductive OperandMistaken : Value → Option Operator → Value → Prop
  | isIn {options operand : Value} (h : ∀ items, operand ≠ .list items) :
      OperandMistaken options (some .isIn) operand
  | notIn {options operand : Value} (h : ∀ items, operand ≠ .list items) :
      OperandMistaken options (some .notIn) operand
  | regex {options operand : Value} (h : ∀ sought, ¬Sought options operand sought) :
      OperandMistaken options (some .regex) operand
  | not {options operand : Value} (h : FieldMistaken operand) :
      OperandMistaken options (some .not) operand

end

mutual

/-- Something is wrong in what is given as a filter. -/
inductive Mistaken : Value → Prop
  | filter {value : Value} (hnull : value ≠ .null) (hobject : ∀ entries, value ≠ .object entries) :
      Mistaken value
  | entry {entries : List (String × Value)} {entry : String × Value} (hentry : entry ∈ entries)
      (h : EntryMistaken (Connective.ofKey? entry.1) entry.2) : Mistaken (.object entries)

/-- Something is wrong in the entry of a filter: a connective has no list, or something is wrong in
one of the filters that it lists or in what is given for the field. -/
inductive EntryMistaken : Option Connective → Value → Prop
  | joined {connective : Connective} {given : Value} (h : ∀ filters, given ≠ .list filters) :
      EntryMistaken (some connective) given
  | listed {connective : Connective} {filters : List Value} {filter : Value}
      (hfilter : filter ∈ filters) (h : Mistaken filter) :
      EntryMistaken (some connective) (.list filters)
  | field {given : Value} (h : FieldMistaken given) : EntryMistaken none given

end

/-! ## Reading one entry -/

/-- The condition that an operator, if it is known, and its operand stand for. -/
def readOperand (field key : String) (options : Value) :
    Option Operator → Value → Except Fault Condition
  | none, operand | some .eq, operand => .ok (.equal operand)
  | some .ne, operand => .ok (.unequal operand)
  | some (.order question), operand => .ok (.ordered question operand)
  | some .isIn, .list items => .ok (.among items)
  | some .notIn, .list items => .ok (.notAmong items)
  | some .isIn, _ | some .notIn, _ => .error (.query (.operandNotList key field))
  | some .regex, operand => .matching <$> readPattern field operand options
  | some .not, operand => .except <$> readField field operand

theorem readConditions_options (field : String) (options operand : Value)
    (rest : List (String × Value)) :
    readConditions field options ((optionsKey, operand) :: rest) =
      readConditions field options rest := by
  rw [readConditions, if_pos rfl]

theorem readConditions_cons {key : String} (hkey : key ≠ optionsKey) (field : String)
    (options operand : Value) (rest : List (String × Value)) :
    readConditions field options ((key, operand) :: rest) = do
      return (← readOperand field key options (Operator.ofKey? key) operand) ::
        (← readConditions field options rest) := by
  rw [readConditions, if_neg hkey]
  cases Operator.ofKey? key with
  | none => rfl
  | some operator =>
      cases operator with
      | isIn | notIn => cases operand <;> rfl
      | _ => rfl

/-- The clause that an entry of a filter stands for. -/
def readEntry (key : String) : Option Connective → Value → Except Fault Clause
  | none, given => .field key <$> readField key given
  | some connective, .list filters => .joined connective <$> readAll filters
  | some _, _ => .error (.query (.connectiveNotList key))

theorem readClauses_cons (key : String) (given : Value) (rest : List (String × Value)) :
    readClauses ((key, given) :: rest) = do
      return (← readEntry key (Connective.ofKey? key) given) :: (← readClauses rest) := by
  cases hkey : Connective.ofKey? key with
  | none => rw [readClauses.eq_4 _ _ _ hkey]; rfl
  | some connective =>
      cases given with
      | list filters => rw [readClauses.eq_2 _ _ _ _ hkey]; rfl
      | _ => rw [readClauses.eq_3 _ _ _ _ hkey (by simp)]; rfl

/-! ## Reading fails only for mistakes -/

theorem isOperatorKey_of_ofKey? {key : String} {operator : Operator}
    (h : Operator.ofKey? key = some operator) : isOperatorKey key = true := by
  obtain ⟨before, after, hentries, -⟩ := List.lookup_eq_some_iff.mp h
  have hmem : (key, operator) ∈ before ++ (key, operator) :: after := by simp
  rw [← hentries] at hmem
  simp only [List.mem_cons, Prod.mk.injEq, List.not_mem_nil, or_false] at hmem
  rcases hmem with h | h | h | h | h | h | h | h | h | h <;> rw [h.1] <;> decide

/-- A pattern is read from an operand if the operand and its options stand for it. -/
theorem readPattern_eq_ok (field : String) {operand options : Value} {sought : Pattern} :
    readPattern field operand options = .ok sought ↔ Sought options operand sought := by
  cases operand with
  | pattern given =>
      constructor
      · rintro ⟨⟩
        exact .given _
      · rintro ⟨⟩
        rfl
  | text source =>
      rw [readPattern, compilePattern]
      constructor
      · intro h
        split at h
        next compiled hcompiled =>
          cases h
          exact .compiled hcompiled
        all_goals cases h
      · rintro ⟨⟩
        next hcompiled =>
          rw [flagsOf] at hcompiled
          rw [hcompiled]
  | _ =>
      constructor
      · rintro ⟨⟩
      · rintro ⟨⟩

theorem isSome_faultOf?_readPattern (field : String) {operand options : Value} :
    (faultOf? (readPattern field operand options)).isSome = true ↔
      ∀ sought, ¬Sought options operand sought := by
  simp only [← readPattern_eq_ok field]
  cases readPattern field operand options <;> simp [faultOf?]

theorem fieldMistaken_object {entries : List (String × Value)} :
    FieldMistaken (.object entries) ↔ ∃ entry ∈ entries,
      OperandMistaken (Document.get entries optionsKey) (Operator.ofKey? entry.1) entry.2 := by
  constructor
  · rintro ⟨hentry, h⟩
    exact ⟨_, hentry, h⟩
  · rintro ⟨entry, hentry, h⟩
    exact .entry hentry h

theorem isSome_faultOf?_readOperand (field key : String) (options : Value) :
    ∀ (operator : Option Operator) (operand : Value),
      ((faultOf? (readField field operand)).isSome = true ↔ FieldMistaken operand) →
        ((faultOf? (readOperand field key options operator operand)).isSome = true ↔
          OperandMistaken options operator operand)
  | none, _, _ | some .eq, _, _ | some .ne, _, _ | some (.order _), _, _ => ⟨nofun, nofun⟩
  | some .isIn, operand, _ => by
      cases operand with
      | list items => exact ⟨nofun, fun | .isIn h => absurd rfl (h items)⟩
      | _ => exact ⟨fun _ => .isIn (by simp), fun _ => rfl⟩
  | some .notIn, operand, _ => by
      cases operand with
      | list items => exact ⟨nofun, fun | .notIn h => absurd rfl (h items)⟩
      | _ => exact ⟨fun _ => .notIn (by simp), fun _ => rfl⟩
  | some .regex, operand, _ => by
      rw [readOperand, faultOf?_map, isSome_faultOf?_readPattern]
      exact ⟨.regex, fun | .regex h => h⟩
  | some .not, operand, h => by
      rw [readOperand, faultOf?_map, h]
      exact ⟨.not, fun | .not h => h⟩

mutual

theorem isSome_faultOf?_readField (field : String) : ∀ given : Value,
    (faultOf? (readField field given)).isSome = true ↔ FieldMistaken given
  | .object entries => by
      rw [readField, fieldMistaken_object]
      split
      next => exact isSome_faultOf?_readConditions field _ entries
      next hplain =>
        simp only [faultOf?, Option.isSome_none, Bool.false_eq_true, false_iff]
        rintro ⟨entry, hentry, hmistaken⟩
        refine hplain (List.any_eq_true.mpr ⟨entry, hentry, ?_⟩)
        cases hkey : Operator.ofKey? entry.1 with
        | none =>
            rw [hkey] at hmistaken
            cases hmistaken
        | some operator => exact isOperatorKey_of_ofKey? hkey
  | .pattern _ => by
      rw [readField]
      simp only [faultOf?, Option.isSome_none, Bool.false_eq_true, false_iff]
      rintro ⟨⟩
  | .null | .bool _ | .int _ | .double _ | .text _ | .list _ | .leaf _ => by
      rw [readField.eq_3 _ _ (by simp) (by simp)]
      simp only [faultOf?, Option.isSome_none, Bool.false_eq_true, false_iff]
      rintro ⟨⟩

theorem isSome_faultOf?_readConditions (field : String) (options : Value) :
    ∀ entries : List (String × Value),
      (faultOf? (readConditions field options entries)).isSome = true ↔ ∃ entry ∈ entries,
        OperandMistaken options (Operator.ofKey? entry.1) entry.2
  | [] => by simp [readConditions, faultOf?]
  | (key, operand) :: rest => by
      have hrest := isSome_faultOf?_readConditions field options rest
      have hnot := isSome_faultOf?_readField field operand
      rw [List.exists_mem_cons_iff, ← hrest]
      by_cases hkey : key = optionsKey
      · have hunknown : Operator.ofKey? optionsKey = none := by decide
        rw [hkey, readConditions_options, hunknown]
        exact ⟨.inr, Or.rec nofun id⟩
      · rw [readConditions_cons hkey, faultOf?_cons, Option.isSome_or, Bool.or_eq_true]
        exact or_congr_left (isSome_faultOf?_readOperand field key options _ operand hnot)

end

theorem mistaken_object {entries : List (String × Value)} :
    Mistaken (.object entries) ↔
      ∃ entry ∈ entries, EntryMistaken (Connective.ofKey? entry.1) entry.2 := by
  constructor
  · intro h
    cases h with
    | filter _ hobject => exact absurd rfl (hobject entries)
    | entry hentry h => exact ⟨_, hentry, h⟩
  · rintro ⟨entry, hentry, h⟩
    exact .entry hentry h

theorem entryMistaken_list {connective : Connective} {filters : List Value} :
    EntryMistaken (some connective) (.list filters) ↔ ∃ filter ∈ filters, Mistaken filter := by
  constructor
  · intro h
    cases h with
    | joined h => exact absurd rfl (h filters)
    | listed hfilter h => exact ⟨_, hfilter, h⟩
  · rintro ⟨filter, hfilter, h⟩
    exact .listed hfilter h

mutual

theorem isSome_faultOf?_read : ∀ value : Value,
    (faultOf? (read value)).isSome = true ↔ Mistaken value
  | .null => by
      rw [read]
      refine ⟨nofun, fun h => ?_⟩
      cases h with
      | filter hnull => exact absurd rfl hnull
  | .object entries => by
      rw [read, mistaken_object]
      exact isSome_faultOf?_readClauses entries
  | .bool _ | .int _ | .double _ | .text _ | .list _ | .pattern _ | .leaf _ => by
      rw [read.eq_3 _ (by simp) (by simp)]
      exact ⟨fun _ => .filter (by simp) (by simp), fun _ => rfl⟩

theorem isSome_faultOf?_readClauses : ∀ entries : List (String × Value),
    (faultOf? (readClauses entries)).isSome = true ↔
      ∃ entry ∈ entries, EntryMistaken (Connective.ofKey? entry.1) entry.2
  | [] => by simp [readClauses, faultOf?]
  | (key, given) :: rest => by
      have hrest := isSome_faultOf?_readClauses rest
      rw [List.exists_mem_cons_iff, ← hrest]
      rw [readClauses_cons, faultOf?_cons, Option.isSome_or, Bool.or_eq_true]
      refine or_congr_left ?_
      cases Connective.ofKey? key with
      | none =>
          rw [readEntry, faultOf?_map, isSome_faultOf?_readField]
          exact ⟨.field, fun | .field h => h⟩
      | some connective =>
          cases given with
          | list filters =>
              rw [readEntry, faultOf?_map, isSome_faultOf?_readAll filters]
              exact entryMistaken_list.symm
          | _ => exact ⟨fun _ => .joined (by simp), fun _ => rfl⟩

theorem isSome_faultOf?_readAll : ∀ filters : List Value,
    (faultOf? (readAll filters)).isSome = true ↔ ∃ filter ∈ filters, Mistaken filter
  | [] => by simp [readAll, faultOf?]
  | filter :: rest => by
      rw [readAll, faultOf?_cons, Option.isSome_or, Bool.or_eq_true, List.exists_mem_cons_iff,
        isSome_faultOf?_read filter, isSome_faultOf?_readAll rest]

end

/-! ## Reading keeps the meaning -/

section

variable {value : Value}

theorem answers_of_readOperand {field key : String} {options operand : Value}
    (hnot : ∀ {conditions : List Condition}, readField field operand = .ok conditions →
      (Condition.allHold value conditions = true ↔ value.Meets operand)) :
    ∀ {operator : Option Operator} {condition : Condition},
      readOperand field key options operator operand = .ok condition →
        (condition.holds value = true ↔ value.Answers options operator operand)
  | none, _, h | some .eq, _, h | some .ne, _, h | some (.order _), _, h => by
      cases h
      simp [Value.Answers, Condition.holds]
  | some .isIn, _, h => by
      cases operand with
      | list items => cases h; simp [Value.Answers, Condition.holds]
      | _ => cases h
  | some .notIn, _, h => by
      cases operand with
      | list items => cases h; simp [Value.Answers, Condition.holds]
      | _ => cases h
  | some .regex, _, h => by
      obtain ⟨sought, hsought, rfl⟩ := Validated.map_eq_ok.mp h
      rw [readPattern_eq_ok] at hsought
      simp only [Value.Answers, Condition.holds]
      exact ⟨fun hfound => ⟨sought, hsought, hfound⟩,
        fun ⟨other, hother, hfound⟩ => hsought.unique hother ▸ hfound⟩
  | some .not, _, h => by
      obtain ⟨conditions, hconditions, rfl⟩ := Validated.map_eq_ok.mp h
      simp [Value.Answers, Condition.holds, ← hnot hconditions]

mutual

theorem meets_of_readField {field : String} : ∀ {given : Value} {conditions : List Condition},
    readField field given = .ok conditions →
      (Condition.allHold value conditions = true ↔ value.Meets given)
  | .object entries, _, h => by
      rw [readField] at h
      rw [Value.Meets]
      split at h
      next hexpression =>
        rw [if_pos hexpression]
        exact answers_of_readConditions h
      next hplain =>
        cases h
        rw [if_neg hplain]
        simp [Condition.allHold, Condition.holds]
  | .pattern sought, _, h => by
      cases h
      simp [Value.Meets, Condition.allHold, Condition.holds]
  | .null, _, h | .bool _, _, h | .int _, _, h | .double _, _, h | .text _, _, h | .list _, _, h
  | .leaf _, _, h => by
      cases h
      simp [Value.Meets, Condition.allHold, Condition.holds]

theorem answers_of_readConditions {field : String} {options : Value} :
    ∀ {entries : List (String × Value)} {conditions : List Condition},
      readConditions field options entries = .ok conditions →
        (Condition.allHold value conditions = true ↔ ∀ entry ∈ entries, entry.1 ≠ optionsKey →
          value.Answers options (Operator.ofKey? entry.1) entry.2)
  | [], _, h => by
      cases h
      simp [Condition.allHold]
  | (key, operand) :: rest, _, h => by
      have hnot := @meets_of_readField field operand
      rw [List.forall_mem_cons]
      by_cases hkey : key = optionsKey
      · rw [hkey, readConditions_options] at h
        simp [hkey, answers_of_readConditions h]
      · rw [readConditions_cons hkey] at h
        obtain ⟨condition, hcondition, h⟩ := Validated.bind_eq_ok.mp h
        obtain ⟨conditions, hconditions, h⟩ := Validated.bind_eq_ok.mp h
        cases h
        simp [Condition.allHold, hkey, answers_of_readOperand hnot hcondition,
          answers_of_readConditions hconditions]

end

variable {doc : Document}

mutual

theorem suits_of_read : ∀ {given : Value} {filter : Filter}, read given = .ok filter →
    (filter.holds doc = true ↔ doc.Suits given)
  | .null, _, h => by
      cases h
      simp [Document.Suits, Filter.holds, Clause.allHold]
  | .object entries, _, h => by
      rw [read] at h
      rw [Document.Suits, Filter.holds]
      exact suitsEntry_of_readClauses h
  | .bool _, _, h | .int _, _, h | .double _, _, h | .text _, _, h | .list _, _, h
  | .pattern _, _, h | .leaf _, _, h => by
      cases h

theorem suitsEntry_of_readClauses : ∀ {entries : List (String × Value)} {clauses : List Clause},
    readClauses entries = .ok clauses → (Clause.allHold doc clauses = true ↔
      ∀ entry ∈ entries, doc.SuitsEntry entry.1 (Connective.ofKey? entry.1) entry.2)
  | [], _, h => by
      cases h
      simp [Clause.allHold]
  | (key, given) :: rest, _, h => by
      rw [readClauses_cons] at h
      obtain ⟨clause, hclause, h⟩ := Validated.bind_eq_ok.mp h
      obtain ⟨clauses, hclauses, h⟩ := Validated.bind_eq_ok.mp h
      cases h
      rw [List.forall_mem_cons, Clause.allHold, Bool.and_eq_true,
        suitsEntry_of_readClauses hclauses]
      refine and_congr_left fun _ => ?_
      cases hkey : Connective.ofKey? key with
      | none =>
          rw [hkey] at hclause
          obtain ⟨conditions, hconditions, rfl⟩ := Validated.map_eq_ok.mp hclause
          rw [Clause.holds, Document.SuitsEntry]
          exact meets_of_readField hconditions
      | some connective =>
          rw [hkey] at hclause
          cases given with
          | list filters =>
              obtain ⟨read, hread, rfl⟩ := Validated.map_eq_ok.mp hclause
              obtain ⟨hevery, hsome⟩ := suits_of_readAll hread
              cases connective with
              | and => rw [Clause.holds, Document.SuitsEntry, hevery]
              | or => simp [Clause.holds, Document.SuitsEntry, hsome]
          | _ => cases hclause

theorem suits_of_readAll : ∀ {filters : List Value} {read : List Filter},
    readAll filters = .ok read →
      (Clause.everyHolds doc read = true ↔ ∀ filter ∈ filters, doc.Suits filter) ∧
        (Clause.someHolds doc read = true ↔ ∃ filter ∈ filters, doc.Suits filter)
  | [], _, h => by
      cases h
      simp [Clause.everyHolds, Clause.someHolds]
  | filter :: rest, _, h => by
      rw [readAll] at h
      obtain ⟨first, hfirst, h⟩ := Validated.bind_eq_ok.mp h
      obtain ⟨others, hothers, h⟩ := Validated.bind_eq_ok.mp h
      cases h
      have hsuits := suits_of_read hfirst
      obtain ⟨hevery, hsome⟩ := suits_of_readAll hothers
      rw [Filter.holds] at hsuits
      simp [Clause.everyHolds, Clause.someHolds, hsuits, hevery, hsome]

end

end

/-- A value is refused as a filter exactly if something is wrong in it. If it is not refused, then
it is read as a filter that holds of the documents that suit the value. -/
theorem refuses_mistakes_and_keeps_meaning (given : Value) :
    ((∃ fault, read given = .error fault) ↔ Mistaken given) ∧
      ∀ filter : Filter, read given = .ok filter →
        ∀ doc : Document, filter.holds doc = true ↔ doc.Suits given := by
  refine ⟨?_, fun filter hread doc => suits_of_read hread⟩
  rw [← isSome_faultOf?_read, Option.isSome_iff_exists]
  simp only [faultOf?_eq_some_iff]

/-- A filter of the deals that are not closed or whose title begins like a word. -/
def openOrTitled : Value :=
  .object [("$or", .list
    [.object [("stage", .object [("$not", .object [("$in", .list [.text "won", .text "lost"])])])],
      .object [("title", .object [("$regex", .text "^ab"), ("$options", .text "i")])]])]

/-- The same filter, with a text for the list of stages. -/
def openOfText : Value :=
  .object [("$or", .list
    [.null, .object [("stage", .object [("$not", .object [("$in", .text "won")])])]])]

theorem keeps_meaning_openOrTitled :
    (∃ filter, read openOrTitled = .ok filter ∧
      filter.holds [("stage", .text "new")] = true ∧
      filter.holds [("stage", .text "won"), ("title", .text "ABC")] = true ∧
      filter.holds [("stage", .text "won")] = false) ∧
    Document.Suits [("stage", .text "new")] openOrTitled ∧
    Document.Suits [("stage", .text "won"), ("title", .text "ABC")] openOrTitled ∧
    ¬Document.Suits [("stage", .text "won")] openOrTitled ∧
    Mistaken openOfText := by
  obtain ⟨-, hmeant⟩ := refuses_mistakes_and_keeps_meaning openOrTitled
  obtain ⟨hrefused, -⟩ := refuses_mistakes_and_keeps_meaning openOfText
  obtain ⟨filter, hread⟩ : ∃ filter, read openOrTitled = .ok filter := ⟨_, rfl⟩
  have hnew : filter.holds [("stage", .text "new")] = true := by cases hread; rfl
  have htitled : filter.holds [("stage", .text "won"), ("title", .text "ABC")] = true := by
    cases hread; rfl
  have hother : filter.holds [("stage", .text "won")] = false := by cases hread; rfl
  refine ⟨⟨filter, hread, hnew, htitled, hother⟩, (hmeant filter hread _).mp hnew,
    (hmeant filter hread _).mp htitled, fun hsuits => ?_, hrefused.mp ⟨_, rfl⟩⟩
  rw [← hmeant filter hread, hother] at hsuits
  cases hsuits

end Filter

end Docbase
