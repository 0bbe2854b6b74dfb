import Docbase.Text.Quoted

/-!
# Identifiers

Generated document identifiers: 128-bit numbers, marked as random ones of version four, and
written in five groups of hexadecimal digits.
-/

namespace Docbase.Identifier

/-- The 32 hexadecimal digits of a number, with the bits of version and variant set. -/
def digits (n : Nat) : List Char :=
  let low := n % Nat.pow 2 62 + Nat.pow 2 63
  let middle := n / Nat.pow 2 64 % Nat.pow 2 12 + 4 * Nat.pow 2 12
  let high := n / Nat.pow 2 80 % Nat.pow 2 48
  Text.hexPadded 12 high ++ Text.hexPadded 4 middle ++ Text.hexPadded 16 low

/-- The identifier made from a number. -/
def ofNat (n : Nat) : String :=
  let all := digits n
  let group := fun (start size : Nat) => (all.drop start).take size
  String.ofList <| group 0 8 ++ '-' :: group 8 4 ++ '-' :: group 12 4 ++ '-' :: group 16 4
    ++ '-' :: group 20 12

end Docbase.Identifier
