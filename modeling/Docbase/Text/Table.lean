/-!
# Tables indexed by character code

Sets and maps of characters, held as sorted arrays and searched by halving. Both have a compact
written form in which every code is the distance from the one before, in hexadecimal.
-/

namespace Docbase.Text

/-- The value of a hexadecimal digit, and zero for any other character. -/
def hexDigit (c : Char) : Nat :=
  if '0' ≤ c ∧ c ≤ '9' then c.toNat - 48
  else if 'a' ≤ c ∧ c ≤ 'f' then c.toNat - 87
  else if 'A' ≤ c ∧ c ≤ 'F' then c.toNat - 55
  else 0

/-- Whether a character is a hexadecimal digit. -/
def isHexDigit (c : Char) : Bool :=
  ('0' ≤ c && c ≤ '9') || ('a' ≤ c && c ≤ 'f') || ('A' ≤ c && c ≤ 'F')

/-- The number that hexadecimal digits write. -/
def readHex (digits : List Char) : Nat :=
  digits.foldl (fun n c => 16 * n + hexDigit c) 0

/-- The number of entries of a sorted array that are at most `n`, known to lie between `lo` and
`hi`. -/
def countUpTo (sorted : Array Nat) (n lo hi : Nat) : Nat :=
  if lo < hi then
    let mid := (lo + hi) / 2
    if sorted[mid]?.getD 0 ≤ n then countUpTo sorted n (mid + 1) hi
    else countUpTo sorted n lo mid
  else lo
termination_by hi - lo

/-- The words of a text, which stand between blanks and line breaks. -/
def words (text : String) : List String :=
  ((text.splitOn "\n").flatMap fun line => line.splitOn " ").filter (· != "")

/-- A set of codes, as the sorted list of the places where membership changes. -/
structure RangeSet where
  /-- Codes from an entry at an even index up to the next entry belong to the set. -/
  bounds : Array Nat

namespace RangeSet

/-- How many bounds lie at or below a code. -/
def rank (set : RangeSet) (code : Nat) : Nat :=
  countUpTo set.bounds code 0 set.bounds.size

/-- A code belongs to the set when it lies past an odd number of bounds. -/
def contains (set : RangeSet) (code : Nat) : Bool :=
  set.rank code % 2 == 1

/-- Whether some code from `lo` to `hi` belongs to the set. -/
def meets (set : RangeSet) (lo hi : Nat) : Bool :=
  set.contains lo || set.rank lo != set.rank hi

/-- Reads bounds separated by blanks, each written as its distance from the one before. -/
def decode (text : String) : RangeSet :=
  let step := fun (state : Nat × Array Nat) (word : String) =>
    let next := state.1 + readHex word.toList
    (next, state.2.push next)
  ⟨((words text).foldl step (0, #[])).2⟩

end RangeSet

/-- A map from codes to short lists of characters. -/
structure CharMap where
  /-- The codes that have an image, in increasing order. -/
  keys : Array Nat
  /-- The image of the key at the same index. -/
  images : Array (List Char)

namespace CharMap

/-- The image of a code, if it has one. -/
def find? (map : CharMap) (code : Nat) : Option (List Char) :=
  let rank := countUpTo map.keys code 0 map.keys.size
  if map.keys[rank - 1]? == some code then map.images[rank - 1]? else none

/-- Reads entries separated by blanks: the distance of the key from the one before, and the codes
of its image, each after a dot. -/
def decode (text : String) : CharMap :=
  let step := fun (state : Nat × CharMap) (word : String) =>
    match word.splitOn "." with
    | [] => state
    | gap :: image =>
      let key := state.1 + readHex gap.toList
      (key, ⟨state.2.keys.push key,
        state.2.images.push (image.map fun code => Char.ofNat (readHex code.toList))⟩)
  ((words text).foldl step (0, ⟨#[], #[]⟩)).2

end CharMap

end Docbase.Text
