/-!
# Double-precision numbers

A finite double is a whole number of quanta, the quantum being two to the power of minus 1074, so
that comparison with other doubles and with integers is comparison of integers. Sums, products
and quotients are computed exactly and rounded once, to the nearest double and to the even
mantissa on a tie.
-/

namespace Docbase

/-- A double: not a number, an infinity, or a signed number of quanta. -/
inductive Double where
  /-- The result of an undefined operation; unequal to everything, itself included. -/
  | nan
  /-- An infinity, with its sign. -/
  | infinite (negative : Bool)
  /-- A finite number. Zero keeps a sign. -/
  | finite (negative : Bool) (quanta : Nat)
  deriving DecidableEq, Repr, Inhabited

namespace Double

/-- The number of quanta in one. -/
def one : Nat := Nat.pow 2 1074

/-- The least number of quanta that is too large for a finite double. -/
def limit : Nat := Nat.pow 2 2098

/-- The quotient of two numbers rounded to the nearest integer, a half to the even one. -/
def roundDiv (num den : Nat) : Nat :=
  let quotient := num / den
  let twice := 2 * (num % den)
  if twice > den || (twice == den && quotient % 2 == 1) then quotient + 1 else quotient

/-- How many low bits a number with this whole part has to give up to fit 53 bits. -/
def excess (whole : Nat) : Nat :=
  whole.log2 - 52

/-- The double nearest to `num / den` quanta; too large a number becomes infinite. -/
def ofQuotient (negative : Bool) (num den : Nat) : Double :=
  let scale := Nat.pow 2 (excess (num / den))
  let quanta := roundDiv num (den * scale) * scale
  if limit ≤ quanta then infinite negative else finite negative quanta

/-- The double nearest to an integer, or `none` when it would be infinite. -/
def ofInt? (n : Int) : Option Double :=
  match ofQuotient (decide (n < 0)) (n.natAbs * one) 1 with
  | finite negative quanta => some (finite negative quanta)
  | _ => none

/-- The number of quanta with its sign, for a finite double. -/
def signed (negative : Bool) (quanta : Nat) : Int :=
  if negative then -(quanta : Int) else quanta

/-- The place of a number on the line of all doubles and integers; none for what is not a number.
Infinities lie beyond every integer. -/
inductive Place where
  /-- Below every number. -/
  | bottom
  /-- A number of quanta. -/
  | level (quanta : Int)
  /-- Above every number. -/
  | top
  deriving DecidableEq, Repr

/-- The order of places. -/
def Place.lt : Place → Place → Bool
  | bottom, bottom => false
  | bottom, _ => true
  | level _, bottom => false
  | level a, level b => decide (a < b)
  | level _, top => true
  | top, _ => false

/-- The place of a double. -/
def place? : Double → Option Place
  | nan => none
  | infinite true => some .bottom
  | infinite false => some .top
  | finite negative quanta => some (.level (signed negative quanta))

/-- The place of an integer. -/
def placeOfInt (n : Int) : Place :=
  .level (n * one)

/-- The finite double with a signed number of quanta that is known to be exact or to round. -/
def ofSigned (quanta : Int) : Double :=
  ofQuotient (decide (quanta < 0)) quanta.natAbs 1

/-- The sum of two doubles. -/
def add : Double → Double → Double
  | nan, _ => nan
  | _, nan => nan
  | infinite s, infinite t => if s == t then infinite s else nan
  | infinite s, finite _ _ => infinite s
  | finite _ _, infinite t => infinite t
  | finite s m, finite t n =>
    if m = 0 ∧ n = 0 then finite (s && t) 0
    else ofSigned (signed s m + signed t n)

/-- The product of two doubles. -/
def mul : Double → Double → Double
  | nan, _ => nan
  | _, nan => nan
  | infinite s, infinite t => infinite (s != t)
  | infinite s, finite t n => if n = 0 then nan else infinite (s != t)
  | finite s m, infinite t => if m = 0 then nan else infinite (s != t)
  | finite s m, finite t n => ofQuotient (s != t) (m * n) one

/-- A double divided by a positive whole number. -/
def divNat : Double → Nat → Double
  | nan, _ => nan
  | infinite s, _ => infinite s
  | finite s m, n => ofQuotient s m n

/-- The double nearest to `n / d`, or `none` when it would be infinite. -/
def ofRatio? (n : Int) (d : Nat) : Option Double :=
  match ofQuotient (decide (n < 0)) (n.natAbs * one) d with
  | finite negative quanta => some (finite negative quanta)
  | _ => none

/-- Whether a double is zero, of either sign. -/
def isZero : Double → Bool
  | finite _ 0 => true
  | _ => false

end Double

end Docbase
