import Docbase.Document

/-!
# Arithmetic of aggregation

Sums, multiples and means of integers and doubles. Integers stay exact until a double comes in;
an integer that is too large for a double then makes the operation fail.
-/

namespace Docbase

/-- A number to be added up. -/
inductive Quantity where
  /-- An exact integer. -/
  | whole (n : Int)
  /-- A double. -/
  | real (x : Double)
  deriving DecidableEq, Repr

namespace Quantity

/-- What a value contributes to a sum: numbers themselves, all else, truth values included,
nothing. -/
def ofValue : Value → Quantity
  | .int n => whole n
  | .double x => real x
  | _ => whole 0

/-- The value of a number. -/
def toValue : Quantity → Value
  | whole n => .int n
  | real x => .double x

/-- An integer as a double. -/
def toDouble (n : Int) : Except Fault Double :=
  match Double.ofInt? n with
  | some x => .ok x
  | none => .error .tooLarge

/-- The sum of two numbers. -/
def add : Quantity → Quantity → Except Fault Quantity
  | whole m, whole n => .ok (whole (m + n))
  | whole m, real y => do return real ((← toDouble m).add y)
  | real x, whole n => do return real (x.add (← toDouble n))
  | real x, real y => .ok (real (x.add y))

/-- The sum of numbers from left to right, beginning with zero. -/
def sum (numbers : List Quantity) : Except Fault Quantity :=
  numbers.foldlM add (whole 0)

/-- A number a given number of times. -/
def times (count : Nat) : Quantity → Except Fault Quantity
  | whole n => .ok (whole (count * n))
  | real x => do return real ((← toDouble count).mul x)

/-- A number divided by a positive count. -/
def dividedBy (count : Nat) : Quantity → Except Fault Quantity
  | whole n =>
    match Double.ofRatio? n count with
    | some x => .ok (real x)
    | none => .error .tooLarge
  | real x => .ok (real (x.divNat count))

end Quantity

end Docbase
