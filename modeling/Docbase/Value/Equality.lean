import Docbase.Value.Basic

/-!
# Equality of values

Numbers are equal when they are the same number, whatever their types; truth values count as one
and zero. Lists are equal item by item, objects key by key whatever the order. What is not a
number equals nothing. `sameKind` is the finer equality of filters, which keeps truth values apart
from numbers at the top level.
-/

namespace Docbase.Value

/-- The place of a number on the line of all numbers. -/
def place? : Value → Option Double.Place
  | bool b => some (Double.placeOfInt (if b then 1 else 0))
  | int n => some (Double.placeOfInt n)
  | double x => x.place?
  | _ => none

/-- Whether a value counts as a number. -/
def isNumeric : Value → Bool
  | bool _ => true
  | int _ => true
  | double _ => true
  | _ => false

/-- Equality of values that are numbers: both have a place, and it is the same. -/
def samePlace (a b : Value) : Bool :=
  match a.place?, b.place? with
  | some p, some q => p == q
  | _, _ => false

mutual

/-- Equality of values. -/
def eq : Value → Value → Bool
  | null, b => b.isNull
  | bool x, b => samePlace (bool x) b
  | int n, b => samePlace (int n) b
  | double x, b => samePlace (double x) b
  | text s, text t => s == t
  | list xs, list ys => eqItems xs ys
  | object fs, object gs => fs.length == gs.length && eqFields fs gs
  | pattern p, pattern q => p == q
  | leaf l, leaf m => l == m
  | _, _ => false

/-- Equality of lists, item by item. -/
def eqItems : List Value → List Value → Bool
  | [], [] => true
  | x :: xs, y :: ys => eq x y && eqItems xs ys
  | _, _ => false

/-- Whether each of some fields has an equal counterpart among others. -/
def eqFields : List (String × Value) → List (String × Value) → Bool
  | [], _ => true
  | (key, x) :: rest, gs =>
    (match gs.lookup key with
      | some y => eq x y
      | none => false) && eqFields rest gs

end

instance : BEq Value := ⟨eq⟩

/-- Equality of a filter: truth values equal truth values only, and all else is equality of
values. -/
def sameKind : Value → Value → Bool
  | bool x, bool y => x == y
  | bool _, _ => false
  | _, bool _ => false
  | a, b => eq a b

/-- Whether a list holds a value equal to a given one. -/
def isAmong (a : Value) (items : List Value) : Bool :=
  items.any (eq a)

end Docbase.Value
