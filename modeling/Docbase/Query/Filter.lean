import Docbase.Document
import Docbase.Value.Order

/-!
# Filters

A filter is a conjunction of clauses, a clause a condition on one field or a connective over
filters. Missing fields count as null.
-/

namespace Docbase

/-- A condition on the value of a field. -/
inductive Condition where
  /-- The value equals the operand. -/
  | equal (operand : Value)
  /-- The value does not equal the operand. -/
  | unequal (operand : Value)
  /-- The value stands in an order to the operand. -/
  | ordered (question : Ordered) (operand : Value)
  /-- The value equals one of the operands. -/
  | among (operands : List Value)
  /-- The value equals none of the operands. -/
  | notAmong (operands : List Value)
  /-- A pattern occurs in the text of the value. -/
  | matching (pattern : Pattern)
  /-- Some of the conditions fails. -/
  | except (conditions : List Condition)

/-- How a clause joins filters. -/
inductive Connective where
  /-- All of them hold. -/
  | and
  /-- One of them holds. -/
  | or
  deriving DecidableEq, Repr

namespace Connective

/-- The key of a connective. -/
def key : Connective → String
  | and => "$and"
  | or => "$or"

/-- The connective of a key. -/
def ofKey? (key : String) : Option Connective :=
  if key = "$and" then some and else if key = "$or" then some or else none

end Connective

/-- A part of a filter. -/
inductive Clause where
  /-- All conditions hold of a field. -/
  | field (name : String) (conditions : List Condition)
  /-- A connective holds of filters. -/
  | joined (connective : Connective) (filters : List (List Clause))

/-- A filter: all its clauses hold. -/
abbrev Filter := List Clause

namespace Condition

/-- Whether a value stands in an order to an operand; without an order it does not. -/
def orderHolds (question : Ordered) (value operand : Value) : Bool :=
  if value.isNull || operand.isNull then false
  else (Value.compare? question value operand).getD false

/-- Whether a pattern occurs in the text of a value; null has no text. -/
def patternHolds (pattern : Pattern) (value : Value) : Bool :=
  if value.isNull then false else pattern.search value.shown

mutual

/-- Whether a condition holds of a value. -/
def holds (value : Value) : Condition → Bool
  | equal operand => value.sameKind operand
  | unequal operand => !value.sameKind operand
  | ordered question operand => orderHolds question value operand
  | among operands => operands.any value.sameKind
  | notAmong operands => !operands.any value.sameKind
  | matching pattern => patternHolds pattern value
  | except conditions => !allHold value conditions

/-- Whether all conditions of a list hold of a value. -/
def allHold (value : Value) : List Condition → Bool
  | [] => true
  | condition :: rest => holds value condition && allHold value rest

end

mutual

/-- Whether looking at a condition comes upon a search in a value that cannot be written. -/
def stalls (value : Value) : Condition → Bool
  | matching _ => !value.isWritable
  | except conditions => someStalls value conditions
  | _ => false

/-- Whether looking at conditions does, which goes on as long as they hold. -/
def someStalls (value : Value) : List Condition → Bool
  | [] => false
  | condition :: rest => stalls value condition || (holds value condition && someStalls value rest)

end

end Condition

namespace Clause

mutual

/-- Whether a document satisfies a clause. -/
def holds (doc : Document) : Clause → Bool
  | field name conditions => Condition.allHold (doc.get name) conditions
  | joined .and filters => everyHolds doc filters
  | joined .or filters => someHolds doc filters

/-- Whether a document satisfies all clauses of a list. -/
def allHold (doc : Document) : List Clause → Bool
  | [] => true
  | clause :: rest => holds doc clause && allHold doc rest

/-- Whether a document satisfies every filter of a list. -/
def everyHolds (doc : Document) : List (List Clause) → Bool
  | [] => true
  | filter :: rest => allHold doc filter && everyHolds doc rest

/-- Whether a document satisfies some filter of a list. -/
def someHolds (doc : Document) : List (List Clause) → Bool
  | [] => false
  | filter :: rest => allHold doc filter || someHolds doc rest

end

mutual

/-- Whether looking at a clause comes upon a search in a value that cannot be written. -/
def stalls (doc : Document) : Clause → Bool
  | field name conditions => Condition.someStalls (doc.get name) conditions
  | joined .and filters => stallsWhileHolding doc filters
  | joined .or filters => stallsWhileFailing doc filters

/-- Whether looking at clauses does, which goes on as long as they hold. -/
def someStalls (doc : Document) : List Clause → Bool
  | [] => false
  | clause :: rest => stalls doc clause || (holds doc clause && someStalls doc rest)

/-- Whether looking at filters does, which goes on as long as they hold. -/
def stallsWhileHolding (doc : Document) : List (List Clause) → Bool
  | [] => false
  | filter :: rest => someStalls doc filter || (allHold doc filter && stallsWhileHolding doc rest)

/-- Whether looking at filters does, which goes on as long as they fail. -/
def stallsWhileFailing (doc : Document) : List (List Clause) → Bool
  | [] => false
  | filter :: rest => someStalls doc filter || (!allHold doc filter && stallsWhileFailing doc rest)

end

end Clause

namespace Filter

/-- Whether a document satisfies a filter. -/
def holds (filter : Filter) (doc : Document) : Bool :=
  Clause.allHold doc filter

/-- Whether looking at a document comes upon a search in a value that cannot be written. -/
def stalls (filter : Filter) (doc : Document) : Bool :=
  Clause.someStalls doc filter

/-- The identifier that a filter pins down: the first text that one of its clauses on the
identifier requires it to equal. -/
def pinned? (filter : Filter) : Option String :=
  filter.findSome? fun clause =>
    match clause with
    | .field name conditions =>
      if name = idKey then
        conditions.findSome? fun condition =>
          match condition with
          | .equal (.text id) => some id
          | _ => none
      else none
    | .joined _ _ => none

end Filter

end Docbase
