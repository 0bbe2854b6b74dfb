import Docbase.Query.FilterReader
import Docbase.Query.Sorting

/-! # What is refused in filters and orders

A filter is read from one end to the other, and refused for the first thing that is not what it
should be: a filter that is no object, operands or joined filters that are no list, a pattern that
cannot be compiled. All of this is said to be a mistake in the query, except that a pattern may ask
for too many repetitions, in more digits than can be read, or for flags that exclude each other.
What to sort by is looked at as little as possible, and refused without such an explanation if it
has no names in it.
-/

namespace Docbase

/-- What has gone wrong, if anything has. -/
def faultOf? {α : Type} : Except Fault α → Option Fault
  | .ok _ => none
  | .error fault => some fault

/-- A fault that is explained as a mistake in a query. -/
def Fault.IsQuery (fault : Fault) : Prop :=
  ∃ cause, fault = .query cause

section

variable {α β : Type} {result : Except Fault α}

theorem faultOf?_eq_some_iff {fault : Fault} :
    faultOf? result = some fault ↔ result = .error fault := by
  cases result <;> simp [faultOf?]

theorem bind_eq_error {ε : Type} {result : Except ε α} {next : α → Except ε β} {fault : ε} :
    (result >>= next) = .error fault ↔
      result = .error fault ∨ ∃ value, result = .ok value ∧ next value = .error fault := by
  cases result <;> simp [bind, Except.bind]

theorem map_eq_error {f : α → β} {fault : Fault} :
    f <$> result = .error fault ↔ result = .error fault := by
  cases result <;> simp [Functor.map, Except.map]

theorem faultOf?_map (f : α → β) : faultOf? (f <$> result) = faultOf? result := by
  cases result <;> rfl

/-- What goes wrong with the others does not matter once something has gone wrong with the first. -/
theorem faultOf?_cons (first : Except Fault α) (others : Except Fault (List α)) :
    faultOf? (do return (← first) :: (← others)) = (faultOf? first).or (faultOf? others) := by
  cases first with
  | error fault => rfl
  | ok value => cases others <;> rfl

theorem findSome?_cons_eq_or (f : α → Option β) (item : α) (rest : List α) :
    (item :: rest).findSome? f = (f item).or (rest.findSome? f) := by
  rw [List.findSome?_cons]
  cases f item <;> rfl

end

namespace Filter

/-- Something that is looked at while a filter is read. -/
inductive Visit where
  /-- A value that should be a filter. -/
  | filter (value : Value)
  /-- A value that should be the list of filters that a connective joins. -/
  | joined (key : String) (value : Value)
  /-- A value that should be the list of operands of an operator for a field. -/
  | operands (operator field : String) (value : Value)
  /-- A value that should be a pattern for a field, and its options. -/
  | pattern (field : String) (value options : Value)

/-- For what something is refused that is looked at. -/
def Visit.fault? : Visit → Option Fault
  | filter .null | filter (.object _) => none
  | filter value => some (.query (.filterNotObject value.typeName))
  | joined _ (.list _) => none
  | joined key _ => some (.query (.connectiveNotList key))
  | operands _ _ (.list _) => none
  | operands operator field _ => some (.query (.operandNotList operator field))
  | pattern field value options => faultOf? (readPattern field value options)

mutual

/-- What is looked at in the value that is given for a field. -/
def fieldVisits (field : String) : Value → List Visit
  | .object fields =>
    if fields.any (fun entry => isOperatorKey entry.1) then
      conditionVisits field (Document.get fields optionsKey) fields
    else []
  | _ => []

/-- What is looked at in an expression of operators. -/
def conditionVisits (field : String) (options : Value) : List (String × Value) → List Visit
  | [] => []
  | (key, operand) :: rest =>
    (if key = optionsKey then []
      else match Operator.ofKey? key with
        | some .isIn => [.operands key field operand]
        | some .notIn => [.operands key field operand]
        | some .regex => [.pattern field operand options]
        | some .not => fieldVisits field operand
        | _ => []) ++ conditionVisits field options rest

end

mutual

/-- What is looked at in a filter, in order. -/
def visits : Value → List Visit
  | .object fields => clauseVisits fields
  | value => [.filter value]

/-- What is looked at in the clauses of a filter. -/
def clauseVisits : List (String × Value) → List Visit
  | [] => []
  | (key, value) :: rest =>
    (match Connective.ofKey? key, value with
      | some _, .list items => visitsOfEach items
      | some _, value => [.joined key value]
      | none, value => fieldVisits key value) ++ clauseVisits rest

/-- What is looked at in the filters that a connective joins. -/
def visitsOfEach : List Value → List Visit
  | [] => []
  | value :: rest => visits value ++ visitsOfEach rest

end

mutual

theorem faultOf?_readField (field : String) : ∀ value : Value,
    faultOf? (readField field value) = (fieldVisits field value).findSome? Visit.fault?
  | .object fields => by
      rw [readField, fieldVisits]
      split
      next => exact faultOf?_readConditions field _ fields
      next => rfl
  | .pattern _ => by rw [readField, fieldVisits.eq_2 _ _ (by simp)]; rfl
  | .null | .bool _ | .int _ | .double _ | .text _ | .list _ | .leaf _ => by
      rw [readField.eq_3 _ _ (by simp) (by simp), fieldVisits.eq_2 _ _ (by simp)]
      rfl

theorem faultOf?_readConditions (field : String) (options : Value) :
    ∀ entries : List (String × Value), faultOf? (readConditions field options entries) =
      (conditionVisits field options entries).findSome? Visit.fault?
  | [] => by rw [readConditions, conditionVisits]; rfl
  | (key, operand) :: rest => by
      have hrest := faultOf?_readConditions field options rest
      have hnot := faultOf?_readField field operand
      rw [readConditions, conditionVisits, List.findSome?_append, ← hrest]
      split
      next => rfl
      next =>
        cases Operator.ofKey? key with
        | none => exact faultOf?_cons _ _
        | some operator =>
            cases operator with
            | eq | ne | order => exact faultOf?_cons _ _
            | isIn | notIn => cases operand <;> exact faultOf?_cons _ _
            | regex =>
                refine (faultOf?_cons _ _).trans ?_
                rw [faultOf?_map, List.findSome?_singleton, Visit.fault?]
            | not =>
                refine (faultOf?_cons _ _).trans ?_
                rw [faultOf?_map, hnot]

end

mutual

/-- A filter is refused for the first thing that is looked at and is not what it should be. -/
theorem faultOf?_read : ∀ value : Value,
    faultOf? (read value) = (visits value).findSome? Visit.fault?
  | .null => by rw [read, visits.eq_2 _ (by simp)]; rfl
  | .object fields => by rw [read, visits, faultOf?_readClauses fields]
  | .bool _ | .int _ | .double _ | .text _ | .list _ | .pattern _ | .leaf _ => by
      rw [read.eq_3 _ (by simp) (by simp), visits.eq_2 _ (by simp)]
      rfl

theorem faultOf?_readClauses : ∀ entries : List (String × Value),
    faultOf? (readClauses entries) = (clauseVisits entries).findSome? Visit.fault?
  | [] => by rw [readClauses, clauseVisits]; rfl
  | (key, value) :: rest => by
      have hrest := faultOf?_readClauses rest
      cases hkey : Connective.ofKey? key with
      | none =>
          rw [readClauses.eq_4 _ _ _ hkey, clauseVisits.eq_4 _ _ _ hkey, List.findSome?_append,
            ← hrest]
          refine (faultOf?_cons _ _).trans ?_
          rw [faultOf?_map, faultOf?_readField]
      | some connective =>
          cases value with
          | list items =>
              rw [readClauses.eq_2 _ _ _ _ hkey, clauseVisits.eq_2 _ _ _ _ hkey,
                List.findSome?_append, ← hrest]
              refine (faultOf?_cons _ _).trans ?_
              rw [faultOf?_map, faultOf?_readAll items]
          | _ =>
              rw [readClauses.eq_3 _ _ _ _ hkey (by simp), clauseVisits.eq_3 _ _ _ _ hkey (by simp),
                List.findSome?_append, ← hrest]
              exact faultOf?_cons _ _

theorem faultOf?_readAll : ∀ values : List Value,
    faultOf? (readAll values) = (visitsOfEach values).findSome? Visit.fault?
  | [] => by rw [readAll, visitsOfEach]; rfl
  | value :: rest => by
      rw [readAll, visitsOfEach, List.findSome?_append, ← faultOf?_read value,
        ← faultOf?_readAll rest, faultOf?_cons]

end

/-- For which causes a pattern is refused without an explanation, and with which faults. -/
inductive Unexplained : Pattern.Fault → Fault → Prop
  | countTooLarge : Unexplained .countTooLarge .tooLarge
  | countUnreadable : Unexplained .countUnreadable .badValue
  | flagConflict : Unexplained .flagConflict .badValue

/-- The flags that the options of a search stand for. -/
def flagsOf (options : Value) : Pattern.Flags :=
  .ofLetters (if options.isTruthy then options.shown else "")

/-- A filter is refused for a fault that is not explained as a mistake in the query: the first thing
that is refused in it is a pattern, without an explanation. -/
def Escapes (filter : Value) (fault : Fault) : Prop :=
  ∃ before field source options after cause,
    visits filter = before ++ .pattern field (.text source) options :: after ∧
      (∀ visit ∈ before, visit.fault? = none) ∧
      Pattern.compile source (flagsOf options) = .error cause ∧ Unexplained cause fault

variable {fault : Fault} (hfault : ¬fault.IsQuery)

include hfault

theorem compilePattern_escapes {field source letters : String} :
    compilePattern field source letters = .error fault ↔ ∃ cause,
      Pattern.compile source (.ofLetters letters) = .error cause ∧ Unexplained cause fault := by
  unfold compilePattern
  cases Pattern.compile source (.ofLetters letters) with
  | ok pattern => simp
  | error cause =>
      constructor
      · intro h
        cases cause with
        | malformed problem position =>
            cases h
            exact absurd ⟨_, rfl⟩ hfault
        | countTooLarge => cases h; exact ⟨_, rfl, .countTooLarge⟩
        | countUnreadable => cases h; exact ⟨_, rfl, .countUnreadable⟩
        | flagConflict => cases h; exact ⟨_, rfl, .flagConflict⟩
      · rintro ⟨_, ⟨⟩, hcause⟩
        cases hcause <;> rfl

theorem fault?_escapes {visit : Visit} :
    visit.fault? = some fault ↔ ∃ field source options cause,
      visit = .pattern field (.text source) options ∧
        Pattern.compile source (flagsOf options) = .error cause ∧ Unexplained cause fault := by
  constructor
  · intro h
    cases visit with
    | pattern field value options =>
        rw [Visit.fault?, faultOf?_eq_some_iff] at h
        cases value with
        | text source =>
            obtain ⟨cause, hcompile, hcause⟩ := (compilePattern_escapes hfault).mp h
            exact ⟨field, source, options, cause, rfl, hcompile, hcause⟩
        | pattern compiled => cases h
        | _ =>
            cases h
            exact absurd ⟨_, rfl⟩ hfault
    -- All else that is looked at is refused with an explanation.
    | filter value | joined key value | operands operator field value =>
        cases value <;> cases h <;> exact absurd ⟨_, rfl⟩ hfault
  · rintro ⟨field, source, options, cause, rfl, hcompile, hcause⟩
    rw [Visit.fault?, faultOf?_eq_some_iff]
    exact (compilePattern_escapes hfault).mpr ⟨cause, hcompile, hcause⟩

theorem read_escapes {filter : Value} :
    read filter = .error fault ↔ Escapes filter fault := by
  rw [← faultOf?_eq_some_iff, faultOf?_read, List.findSome?_eq_some_iff]
  constructor
  · rintro ⟨before, visit, after, hvisits, hvisit, hbefore⟩
    obtain ⟨field, source, options, cause, rfl, hcompile, hcause⟩ :=
      (fault?_escapes hfault).mp hvisit
    exact ⟨before, field, source, options, after, cause, hvisits, hbefore, hcompile, hcause⟩
  · rintro ⟨before, field, source, options, after, cause, hvisits, hbefore, hcompile, hcause⟩
    exact ⟨before, _, after, hvisits,
      (fault?_escapes hfault).mpr ⟨field, source, options, cause, rfl, hcompile, hcause⟩, hbefore⟩

end Filter

namespace SortField

/-- What to sort by is refused for a fault that is not explained as a mistake in the query: it
counts as true, but cannot have names in it, or it is a list in which not everything is a name. -/
inductive Escapes (order : Value) : Fault → Prop
  | wrongType (htruthy : order.isTruthy = true) (htext : ∀ text, order ≠ .text text)
      (hobject : ∀ fields, order ≠ .object fields) (hlist : ∀ items, order ≠ .list items) :
      Escapes order .wrongType
  | missingPart {items : List Value} {item : Value} (horder : order = .list items)
      (hitem : item ∈ items) (htext : ∀ text, item ≠ .text text) : Escapes order .missingPart

end SortField

end Docbase
