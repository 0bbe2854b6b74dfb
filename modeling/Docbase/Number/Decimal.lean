import Docbase.Number.Double

/-!
# Decimal texts of doubles

A double is written with the fewest significant digits that read back as the same double, and of
those with the digits nearest to it. It is written positionally when its decimal exponent lies
from -4 to 15 and with an exponent of at least two digits otherwise. Reading a decimal takes the
nearest double.
-/

namespace Docbase.Double

/-- The decimal digits of a natural number. -/
def digitsOf (n : Nat) : List Char :=
  Nat.toDigits 10 n

/-- The number that decimal digits write; other characters count as zero. -/
def readDigits (digits : List Char) : Nat :=
  digits.foldl (fun n c => 10 * n + (c.toNat - 48)) 0

/-- The double nearest to `digits * 10 ^ exponent`. The exponent is cut off where the result is
infinite or zero whatever the digits are. -/
def ofDecimal (negative : Bool) (digits : Nat) (exponent : Int) : Double :=
  if digits = 0 then finite negative 0
  else
    let magnitude := exponent + (digitsOf digits).length
    if magnitude > 400 then infinite negative
    else if magnitude < -400 then finite negative 0
    else if 0 ≤ exponent then ofQuotient negative (digits * Nat.pow 10 exponent.toNat * one) 1
    else ofQuotient negative (digits * one) (Nat.pow 10 (-exponent).toNat)

/-- Half the distance to the neighbours below and above a positive number of quanta, in quarters
of a quantum. At a power of two the neighbour below is half as far. -/
def reach (quanta : Nat) : Nat × Nat :=
  let scale := Nat.pow 2 (excess quanta)
  if 1 < scale ∧ quanta = Nat.pow 2 52 * scale then (scale, 2 * scale) else (2 * scale, 2 * scale)

/-- Whether `num / den` quanta read back as the given number of quanta. -/
def readsBack (quanta num den : Nat) : Bool :=
  let (below, above) := reach quanta
  let even := quanta / Nat.pow 2 (excess quanta) % 2 == 0
  let low := (4 * quanta - below) * den
  let high := (4 * quanta + above) * den
  if even then low ≤ 4 * num && 4 * num ≤ high else low < 4 * num && 4 * num < high

/-- The exponent of the first decimal digit: of the greatest power of ten that does not exceed
`num / den`. -/
def leadExponent (num den : Nat) : Int :=
  if den ≤ num then ((digitsOf (num / den)).length : Int) - 1
  else
    Int.negSucc (((List.range 330).find? fun k => den ≤ num * Nat.pow 10 (k + 1)).getD 330)

/-- The number of quanta in ten to the power of an exponent, as a quotient. -/
def tenPower (exponent : Int) : Nat × Nat :=
  if 0 ≤ exponent then (Nat.pow 10 exponent.toNat * one, 1) else (one, Nat.pow 10 (-exponent).toNat)

/-- The multiple of ten to the power of `exponent` that is nearest to a number of quanta among
the two neighbours that read back as it, if one of them does. -/
def onGrid? (quanta : Nat) (exponent : Int) : Option Nat :=
  let (num, den) := tenPower exponent
  let below := quanta * den / num
  let rest := quanta * den % num
  let fits := fun n => readsBack quanta (n * num) den
  let upperFirst := 2 * rest > num || (2 * rest == num && below % 2 == 1)
  if upperFirst then
    if fits (below + 1) then some (below + 1) else if fits below then some below else none
  else
    if fits below then some below else if fits (below + 1) then some (below + 1) else none

/-- The shortest digits of a positive number of quanta, and the exponent of the last of them. -/
def shortest (quanta : Nat) : Nat × Int :=
  let lead := leadExponent quanta one
  let found := (List.range 17).findSome? fun (k : Nat) =>
    (onGrid? quanta (lead - (k : Int))).map fun n => (n, lead - (k : Int))
  found.getD (0, 0)

/-- Digits without the zeros at their end, and how many zeros there were. -/
def stripZeros (digits : List Char) : List Char × Nat :=
  let kept := (digits.reverse.dropWhile (· == '0')).reverse
  (kept, digits.length - kept.length)

/-- Exponents below which a double is written with an exponent. -/
def leastPositional : Int := -4

/-- The first exponent from which on a double is written with an exponent again. -/
def firstExponential : Int := 16

/-- Lays out significant digits whose first one has the given decimal exponent. -/
def layOut (digits : List Char) (lead : Int) : List Char :=
  if lead < leastPositional ∨ firstExponential ≤ lead then
    let mantissa := match digits with
      | d :: e :: rest => d :: '.' :: e :: rest
      | short => short
    let size := digitsOf lead.natAbs
    let padded := if size.length < 2 then '0' :: size else size
    mantissa ++ ['e', if lead < 0 then '-' else '+'] ++ padded
  else if lead < 0 then
    ['0', '.'] ++ List.replicate ((-lead).toNat - 1) '0' ++ digits
  else
    let whole := lead.toNat + 1
    let front := digits.take whole ++ List.replicate (whole - digits.length) '0'
    let back := digits.drop whole
    front ++ '.' :: (if back.isEmpty then ['0'] else back)

/-- The text of a double. -/
def text : Double → String
  | nan => "nan"
  | infinite negative => if negative then "-inf" else "inf"
  | finite negative quanta =>
    let body :=
      if quanta = 0 then ['0', '.', '0']
      else
        let (n, exponent) := shortest quanta
        let digits := digitsOf n
        layOut (stripZeros digits).1 (exponent + digits.length - 1)
    String.ofList (if negative then '-' :: body else body)

/-- A sign at the front of a text: whether it is a minus, and what follows. -/
def readSign : List Char → Bool × List Char
  | '-' :: rest => (true, rest)
  | '+' :: rest => (false, rest)
  | rest => (false, rest)

/-- Reads an exponent of decimal digits with an optional sign. -/
def readExponent? (text : List Char) : Option Int :=
  let (negative, digits) := readSign text
  if digits.isEmpty || !digits.all (fun c => '0' ≤ c && c ≤ '9') then none
  else
    let n : Int := readDigits digits
    some (if negative then -n else n)

/-- Reads digits with an optional point and an optional exponent; some digit has to come before
the exponent. -/
def readDecimal? (negative : Bool) (text : List Char) : Option Double :=
  let isDigit := fun c : Char => '0' ≤ c && c ≤ '9'
  let whole := text.takeWhile isDigit
  let afterWhole := text.dropWhile isDigit
  let (fraction, afterFraction) := match afterWhole with
    | '.' :: rest => (rest.takeWhile isDigit, rest.dropWhile isDigit)
    | rest => ([], rest)
  if whole.isEmpty && fraction.isEmpty then none
  else
    let value := fun exponent : Int =>
      ofDecimal negative (readDigits (whole ++ fraction)) (exponent - fraction.length)
    match afterFraction with
    | [] => some (value 0)
    | c :: rest =>
      if c == 'e' || c == 'E' then (readExponent? rest).map value else none

/-- Reads a number, an infinity or a "nan" in any case, with an optional sign and no blanks. -/
def ofText? (text : List Char) : Option Double :=
  let (negative, body) := readSign text
  let word := String.ofList (body.map Char.toLower)
  if word = "inf" ∨ word = "infinity" then some (infinite negative)
  else if word = "nan" then some nan
  else readDecimal? negative body

/-- A text without the underscores that stand between two digits, or `none` when an underscore
stands elsewhere. -/
def dropUnderscores? : List Char → Option (List Char)
  | [] => some []
  | c :: rest => go c (if c == '_' then none else some [c]) rest
where
  /-- Continues after the character `last`, with what is kept so far reversed. -/
  go (last : Char) (kept : Option (List Char)) : List Char → Option (List Char)
    | [] => if last == '_' then none else kept.map List.reverse
    | c :: rest =>
      if c == '_' then go c (if last.isDigit then kept else none) rest
      else if last == '_' && !c.isDigit then none
      else go c (kept.map (c :: ·)) rest

end Docbase.Double
