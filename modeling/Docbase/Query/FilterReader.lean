import Docbase.Query.Filter

/-!
# Reading filters

A filter is read from an object once, before any document is looked at. An object with a key that
begins with a dollar sign is an expression of operators; any other value stands for equality, and
a compiled pattern for a search. An operator that is not known stands for equality too.
-/

namespace Docbase

/-- The operators of filter expressions. -/
inductive Operator where
  /-- Equality. -/
  | eq
  /-- Inequality. -/
  | ne
  /-- A question of order. -/
  | order (question : Ordered)
  /-- Membership in a list. -/
  | isIn
  /-- Absence from a list. -/
  | notIn
  /-- Negation of an expression. -/
  | not
  /-- Search for a pattern. -/
  | regex
  deriving DecidableEq, Repr

namespace Operator

/-- The operator of a key. -/
def ofKey? (key : String) : Option Operator :=
  [("$eq", eq), ("$ne", ne), ("$gt", order .greater), ("$gte", order .atLeast),
    ("$lt", order .less), ("$lte", order .atMost), ("$in", isIn), ("$nin", notIn), ("$not", not),
    ("$regex", regex)].lookup key

end Operator

/-- The key of the options of a pattern in an expression. -/
def optionsKey : String := "$options"

/-- Whether a key begins with a dollar sign. -/
def isOperatorKey (key : String) : Bool :=
  key.toList.head? == some '$'

/-- Compiles the text of a pattern with the flags named by its options. -/
def compilePattern (field source options : String) : Except Fault Pattern :=
  match Pattern.compile source (Pattern.Flags.ofLetters options) with
  | .ok pattern => .ok pattern
  | .error (.malformed problem position) =>
    .error (.query (.malformedPattern field source problem position))
  | .error .countTooLarge => .error .tooLarge
  | .error .countUnreadable => .error .badValue
  | .error .flagConflict => .error .badValue

/-- The pattern that the operand of a search stands for. -/
def readPattern (field : String) (operand options : Value) : Except Fault Pattern :=
  match operand with
  | .pattern pattern => .ok pattern
  | .text source =>
    compilePattern field source (if options.isTruthy then options.shown else "")
  | _ => .error (.query (.patternNotText field))

namespace Filter

mutual

/-- The conditions that the value given for a field stands for. -/
def readField (name : String) : Value → Except Fault (List Condition)
  | .object fields =>
    if fields.any (fun entry => isOperatorKey entry.1) then
      readConditions name (Document.get fields optionsKey) fields
    else .ok [.equal (.object fields)]
  | .pattern pattern => .ok [.matching pattern]
  | value => .ok [.equal value]

/-- The conditions of an expression of operators, in order. -/
def readConditions (name : String) (options : Value) :
    List (String × Value) → Except Fault (List Condition)
  | [] => .ok []
  | (key, operand) :: rest =>
    if key = optionsKey then readConditions name options rest
    else do
      let condition ← match Operator.ofKey? key with
        | none => pure (.equal operand)
        | some .eq => pure (.equal operand)
        | some .ne => pure (.unequal operand)
        | some (.order question) => pure (.ordered question operand)
        | some .isIn =>
          match operand with
          | .list items => pure (.among items)
          | _ => throw (.query (.operandNotList key name))
        | some .notIn =>
          match operand with
          | .list items => pure (.notAmong items)
          | _ => throw (.query (.operandNotList key name))
        | some .regex => .matching <$> readPattern name operand options
        | some .not => .except <$> readField name operand
      return condition :: (← readConditions name options rest)

end

mutual

/-- Reads a filter; null stands for the empty one. -/
def read : Value → Except Fault Filter
  | .null => .ok []
  | .object fields => readClauses fields
  | value => .error (.query (.filterNotObject value.typeName))

/-- Reads the clauses of a filter, in order. -/
def readClauses : List (String × Value) → Except Fault Filter
  | [] => .ok []
  | (key, value) :: rest => do
    let clause ← match Connective.ofKey? key, value with
      | some connective, .list items => .joined connective <$> readAll items
      | some _, _ => throw (.query (.connectiveNotList key))
      | none, value => .field key <$> readField key value
    return clause :: (← readClauses rest)

/-- Reads the filters of a connective. -/
def readAll : List Value → Except Fault (List Filter)
  | [] => .ok []
  | value :: rest => do return (← read value) :: (← readAll rest)

end

end Filter

/-- Whether a document satisfies a filter that is still to be read. -/
def Document.satisfies (doc : Document) (filter : Value) : Except Fault Bool := do
  return (← Filter.read filter).holds doc

end Docbase
