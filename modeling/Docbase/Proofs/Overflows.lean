import Docbase.Proofs.Decimals
import Docbase.Proofs.Refusals
import Docbase.Proofs.ValidSchema
import Docbase.Query.Aggregation

/-! # Numbers that are too large

Whole numbers are added up exactly until a double comes in. A whole number that is too large to be
rounded to a double then makes the operation fail, and so does a mean that is. Nothing else can go
wrong with an accumulator.
-/

namespace Docbase

namespace Double

/-- The least whole number that is rounded beyond all doubles: halfway between the largest double
and the power of two that comes next. -/
def tooLarge : Nat :=
  2 ^ 1024 - 2 ^ 970

theorem grain_of_lt {q bits : Nat} (h : q < 2 ^ bits) : grain q ≤ 2 ^ (bits - 53) := by
  by_cases hq : q = 0
  · subst hq
    exact Nat.one_le_two_pow
  · have hlog := (Nat.log2_lt hq).mpr h
    refine Nat.pow_le_pow_right (by decide) ?_
    unfold excess
    omega

/-- Rounding to steps goes at most one step up. -/
theorem roundDiv_mul_le (num den g : Nat) : roundDiv num (den * g) * g ≤ num / den + g := by
  have hround : roundDiv num (den * g) ≤ num / den / g + 1 := by
    unfold roundDiv
    rw [Nat.div_div_eq_div_mul]
    dsimp only
    split <;> omega
  calc roundDiv num (den * g) * g ≤ (num / den / g + 1) * g := Nat.mul_le_mul_right g hround
    _ = num / den / g * g + g := by ring
    _ ≤ num / den + g := Nat.add_le_add_right (Nat.div_mul_le_self _ _) g

theorem le_roundDiv_of_le {num den g n : Nat} (hg : 0 < g) (h : n * g ≤ num / den) :
    n ≤ roundDiv num (den * g) := by
  have hfloor : n ≤ num / (den * g) := by
    rw [← Nat.div_div_eq_div_mul]
    exact (Nat.le_div_iff_mul_le hg).mpr h
  unfold roundDiv
  dsimp only
  split <;> omega

section

variable {num den : Nat}

end

end Double

namespace Quantity

variable {fault : Fault}

/-- Two numbers cannot be added up: one is a double, and the other one a whole number that is too
large. -/
inductive Clashes : Quantity → Quantity → Prop
  | whole_real {m : Int} {y : Double} (hlarge : Double.tooLarge ≤ m.natAbs) :
      Clashes (whole m) (real y)
  | real_whole {x : Double} {n : Int} (hlarge : Double.tooLarge ≤ n.natAbs) :
      Clashes (real x) (whole n)

end Quantity

namespace Accumulator

open Quantity

/-- An accumulator cannot sum up documents. -/
inductive Overflows (docs : List Document) (operand : Value) : Accumulator → Prop
  /-- The sum of a field reaches a number that the next one clashes with. -/
  | total {accumulator : Accumulator} {field : String} {before after : List Document}
      {doc : Document} {reached : Quantity} (hsums : accumulator = sum ∨ accumulator = avg)
      (hfield : fieldOf? operand = some field) (hdocs : docs = before ++ doc :: after)
      (hreached : total before field = .ok reached)
      (hclash : reached.Clashes (.ofValue (doc.get field))) : Overflows docs operand accumulator
  /-- There are too many documents to count a double for each of them. -/
  | times {x : Double} (hoperand : operand = .double x)
      (hlarge : Double.tooLarge ≤ docs.length) : Overflows docs operand sum
  /-- The mean of whole numbers is too large. -/
  | mean {field : String} {n : Int} (hfield : fieldOf? operand = some field) (hdocs : docs ≠ [])
      (htotal : Accumulator.total docs field = .ok (.whole n))
      (hlarge : Double.tooLarge * docs.length ≤ n.natAbs) : Overflows docs operand avg

variable {docs : List Document} {operand : Value} {fault : Fault}

end Accumulator

end Docbase
