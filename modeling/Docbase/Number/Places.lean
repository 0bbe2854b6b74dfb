import Docbase.Number.Decimal

/-!
# Doubles with a given number of places

The digits of a double cut off after a given number of places or significant digits, rounded to
the nearest, and to the even neighbour on a tie.
-/

namespace Docbase.Double

/-- Digits with zeros in front, at least `size` of them. -/
def leadingZeros (size : Nat) (digits : List Char) : List Char :=
  List.replicate (size - digits.length) '0' ++ digits

/-- The digits of a magnitude in front of the point and behind it, with so many behind it. -/
def fixedDigits (places quanta : Nat) : List Char × List Char :=
  let digits := leadingZeros (places + 1) (digitsOf (roundDiv (quanta * Nat.pow 10 places) one))
  let front := digits.length - places
  (digits.take front, digits.drop front)

/-- The first digits of a magnitude, one more than `places`, and the exponent of the first. -/
def leadingDigits (places quanta : Nat) : List Char × Int :=
  if quanta = 0 then (List.replicate (places + 1) '0', 0)
  else
    let lead := leadExponent quanta one
    let (num, den) := tenPower (lead - places)
    let digits := digitsOf (roundDiv (quanta * den) num)
    (digits.take (places + 1), lead + (digits.length - (places + 1) : Int))

/-- Digits in front of a point and behind it. The point is left out when nothing follows, unless
it is to be kept. -/
def pointed (keepsPoint : Bool) (front back : List Char) : List Char :=
  if back.isEmpty && !keepsPoint then front else front ++ '.' :: back

/-- An exponent of at least two digits. -/
def exponentText (exponent : Int) : List Char :=
  ['e', if exponent < 0 then '-' else '+'] ++ leadingZeros 2 (digitsOf exponent.natAbs)

/-- A magnitude with a number of places. -/
def fixedText (keepsPoint : Bool) (places quanta : Nat) : List Char :=
  let (front, back) := fixedDigits places quanta
  pointed keepsPoint front back

/-- A magnitude with a number of places and an exponent. -/
def scientificText (keepsPoint : Bool) (places quanta : Nat) : List Char :=
  let (digits, exponent) := leadingDigits places quanta
  pointed keepsPoint (digits.take 1) (digits.drop 1) ++ exponentText exponent

/-- A magnitude with a number of significant digits: with an exponent if that is below -4 or
beyond the digits. Zeros at the end are left out unless they are to be kept. -/
def generalText (keepsZeros : Bool) (size quanta : Nat) : List Char :=
  let size := size.max 1
  let (digits, exponent) := leadingDigits (size - 1) quanta
  let isPositional := leastPositional ≤ exponent ∧ exponent < size
  let (front, back) :=
    if !isPositional then (digits.take 1, digits.drop 1)
    else if exponent < 0 then (['0'], List.replicate ((-exponent).toNat - 1) '0' ++ digits)
    else digits.splitAt (exponent.toNat + 1)
  let back := if keepsZeros then back else (stripZeros back).1
  pointed keepsZeros front back ++ (if isPositional then [] else exponentText exponent)

end Docbase.Double
