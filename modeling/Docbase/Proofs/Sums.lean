import Docbase.Proofs.Overflows

/-! # Sums of numbers

What is not a number counts as zero in a sum. Zero makes no difference, since a sum is begun with
an integer: what it reaches is an integer or has been rounded already, and is never a negative
zero. A sum is therefore the sum of the numbers alone, and one of integers does not depend on their
order.
-/

namespace Docbase

namespace Double

/-! ## Rounding what is rounded -/

/-- A whole number of quanta rounded to one that a double can be, unless it is too large. -/
def rounded (num : Nat) : Nat :=
  roundDiv num (grain num) * grain num

theorem roundDiv_mul_self (n : Nat) {den : Nat} (hden : 0 < den) : roundDiv (n * den) den = n := by
  unfold roundDiv
  simp [hden, hden.ne]

section

variable {negative sign : Bool} {num quanta : Nat}

theorem roundDiv_grain_le (num : Nat) : roundDiv num (grain num) ≤ 2 ^ 53 := by
  have hround := roundDiv_mul_le num 1 (grain num)
  rw [Nat.one_mul, Nat.div_one] at hround
  have hmul : roundDiv num (grain num) * grain num < (2 ^ 53 + 1) * grain num := by
    rw [Nat.add_one_mul]
    exact hround.trans_lt (Nat.add_lt_add_right (lt_grain num) _)
  exact Nat.lt_succ_iff.mp (Nat.lt_of_mul_lt_mul_right hmul)

/-- What is rounded is a multiple of its own step. Rounded up, it can be a power of two, whose step
is twice as long as that of the number. -/
theorem grain_dvd_rounded (num : Nat) : grain (rounded num) ∣ rounded num := by
  unfold rounded
  have hpower : 2 ^ 53 * grain num = 2 ^ (53 + excess num) := (Nat.pow_add 2 53 _).symm
  rcases (roundDiv_grain_le num).lt_or_eq with hlt | heq
  · have hsmall : roundDiv num (grain num) * grain num < 2 ^ (53 + excess num) := by
      rw [← hpower]
      exact Nat.mul_lt_mul_of_pos_right hlt (grain_pos num)
    have hgrain := grain_of_lt hsmall
    rw [Nat.add_sub_cancel_left] at hgrain
    have hdvd : grain (roundDiv num (grain num) * grain num) ∣ grain num :=
      Nat.pow_dvd_pow 2 ((Nat.pow_le_pow_iff_right (by decide)).mp hgrain)
    exact hdvd.mul_left _
  · rw [heq, hpower, grain, excess, Nat.log2_two_pow]
    exact Nat.pow_dvd_pow 2 (Nat.sub_le _ _)

theorem rounded_of_dvd (h : grain quanta ∣ quanta) : rounded quanta = quanta := by
  obtain ⟨n, hn⟩ := h
  have hround : roundDiv quanta (grain quanta) = n := by
    conv_lhs => arg 1; rw [hn, Nat.mul_comm]
    exact roundDiv_mul_self n (grain_pos quanta)
  rw [rounded, hround, Nat.mul_comm]
  exact hn.symm

theorem rounded_ne_zero (hnum : num ≠ 0) : rounded num ≠ 0 := by
  have hround : 1 ≤ roundDiv num (1 * grain num) := by
    refine le_roundDiv_of_le (grain_pos num) ?_
    rw [Nat.one_mul, Nat.div_one]
    exact grain_le hnum
  rw [Nat.one_mul] at hround
  exact (Nat.mul_pos hround (grain_pos num)).ne'

theorem ofQuotient_one (negative : Bool) (num : Nat) : ofQuotient negative num 1 =
    if limit ≤ rounded num then infinite negative else finite negative (rounded num) := by
  have hquotient : ofQuotient negative num 1 =
    if limit ≤ roundDiv num (1 * grain (num / 1)) * grain (num / 1) then infinite negative
    else finite negative (roundDiv num (1 * grain (num / 1)) * grain (num / 1)) := rfl
  rw [hquotient, Nat.one_mul, Nat.div_one, rounded]

/-- A number of quanta that a double can be is not rounded. -/
theorem ofQuotient_of_isQuanta (h : IsQuanta quanta) :
    ofQuotient negative quanta 1 = finite negative quanta := by
  rw [ofQuotient_one, rounded_of_dvd h.1, if_neg (Nat.not_le.mpr h.2)]

/-- Rounding keeps the sign, and makes no zero of a whole number of quanta. -/
theorem of_ofQuotient_eq_finite (h : ofQuotient negative num 1 = finite sign quanta) :
    sign = negative ∧ IsQuanta quanta ∧ (quanta = 0 → num = 0) := by
  rw [ofQuotient_one] at h
  split at h
  next => cases h
  next hlimit =>
    obtain ⟨rfl, rfl⟩ := finite.inj h
    exact ⟨rfl, ⟨grain_dvd_rounded num, Nat.not_le.mp hlimit⟩,
      not_imp_not.mp rounded_ne_zero⟩

end

theorem ofInt?_eq_some {n : Int} {x : Double} (h : ofInt? n = some x) :
    ofQuotient (decide (n < 0)) (n.natAbs * one) 1 = x := by
  have hdef : ofInt? = ofInt? := rfl
  conv_rhs at hdef => delta ofInt?
  rw [hdef] at h
  beta_reduce at h
  generalize ofQuotient _ _ _ = rounded at h
  cases rounded <;> simp_all

theorem ofInt?_zero : ofInt? 0 = some (finite false 0) := by
  decide +kernel

/-! ## Adding zero -/

section

variable {negative : Bool} {quanta : Nat} {x y : Double}

theorem signed_natAbs (negative : Bool) (quanta : Nat) :
    (signed negative quanta).natAbs = quanta := by
  cases negative <;> simp [signed]

theorem signed_lt_zero (hquanta : quanta ≠ 0) :
    decide (signed negative quanta < 0) = negative := by
  cases negative <;> simp [signed, Nat.pos_iff_ne_zero, hquanta]

theorem finite_add_zero (hquanta : IsQuanta quanta) (hsign : quanta = 0 → negative = false) :
    (finite negative quanta).add (finite false 0) = finite negative quanta := by
  by_cases hzero : quanta = 0
  · rw [hzero, hsign hzero]
    rfl
  · have hsum : signed negative quanta + signed false 0 = signed negative quanta := Int.add_zero _
    rw [add, if_neg fun h => hzero h.1, hsum, ofSigned, signed_natAbs, signed_lt_zero hzero]
    exact ofQuotient_of_isQuanta hquanta

/-- A sum that does not begin with a negative zero is rounded, and is no negative zero. -/
theorem add_add_zero (hx : x ≠ finite true 0) : (x.add y).add (finite false 0) = x.add y := by
  cases x with
  | nan => rfl
  | infinite s =>
      cases y with
      | nan => rfl
      | infinite t => cases s <;> cases t <;> rfl
      | finite t n => rfl
  | finite s m =>
      cases y with
      | nan => rfl
      | infinite t => rfl
      | finite t n =>
          rw [add]
          split
          next hzero =>
            cases s with
            | false => rfl
            | true => exact absurd (by rw [hzero.1]) hx
          next =>
            cases hrounded : ofSigned (signed s m + signed t n) with
            | nan => rfl
            | infinite sign => rfl
            | finite sign quanta =>
                obtain ⟨rfl, hquanta, hnum⟩ := of_ofQuotient_eq_finite hrounded
                refine finite_add_zero hquanta fun hzero => ?_
                rw [Int.natAbs_eq_zero.mp (hnum hzero)]
                rfl

end

end Double

/-- The number that a value is. Truth values are none. -/
def Value.number? : Value → Option Quantity
  | int n => some (.whole n)
  | double x => some (.real x)
  | _ => none

/-- The integer that a value is, and zero for what is none. -/
def Value.integer : Value → Int
  | int n => n
  | _ => 0

namespace Quantity

variable {a b : Quantity}

theorem toDouble_eq_ok {n : Int} {x : Double} :
    toDouble n = .ok x ↔ Double.ofInt? n = some x := by
  have hdef : toDouble = toDouble := rfl
  conv_rhs at hdef => delta toDouble
  rw [hdef]
  beta_reduce
  generalize Double.ofInt? n = nearest
  cases nearest <;> simp

/-- A double that an integer is rounded to is no negative zero. -/
theorem toDouble_ne_negative_zero {n : Int} {x : Double} (h : toDouble n = .ok x) :
    x ≠ .finite true 0 := by
  rintro rfl
  have hrounded := Double.ofInt?_eq_some (toDouble_eq_ok.mp h)
  obtain ⟨hsign, -, hzero⟩ := Double.of_ofQuotient_eq_finite hrounded
  have hn : n.natAbs = 0 := (Nat.mul_eq_zero.mp (hzero rfl)).resolve_right Double.one_pos.ne'
  have hneg : n < 0 := of_decide_eq_true hsign.symm
  omega

/-- Adding zero makes no difference. -/
def Settled (a : Quantity) : Prop :=
  a.add (whole 0) = .ok a

theorem settled_whole (n : Int) : Settled (whole n) :=
  congrArg (fun m => Except.ok (whole m)) (Int.add_zero n)

theorem settled_real_iff {x : Double} : Settled (real x) ↔ x.add (.finite false 0) = x := by
  rw [Settled, add, toDouble_eq_ok.mpr Double.ofInt?_zero]
  exact ⟨fun h => real.inj (Except.ok.inj h), fun h => congrArg (Except.ok ∘ real) h⟩

theorem Settled.ne_negative_zero {x : Double} (h : Settled (real x)) : x ≠ .finite true 0 := by
  rintro rfl
  cases settled_real_iff.mp h

/-- What a sum reaches from where zero makes no difference is such a number again. -/
theorem Settled.add {sum : Quantity} (h : a.Settled) (hsum : a.add b = .ok sum) : sum.Settled := by
  cases a with
  | whole m =>
      cases b with
      | whole n =>
          cases hsum
          exact settled_whole _
      | real y =>
          rw [Quantity.add, bind_pure_comp] at hsum
          obtain ⟨x, hx, rfl⟩ := Validated.map_eq_ok.mp hsum
          exact settled_real_iff.mpr (Double.add_add_zero (toDouble_ne_negative_zero hx))
  | real x =>
      cases b with
      | whole n =>
          rw [Quantity.add, bind_pure_comp] at hsum
          obtain ⟨y, hy, rfl⟩ := Validated.map_eq_ok.mp hsum
          exact settled_real_iff.mpr (Double.add_add_zero h.ne_negative_zero)
      | real y =>
          cases hsum
          exact settled_real_iff.mpr (Double.add_add_zero h.ne_negative_zero)

theorem ofValue_cases (value : Value) : value.number? = some (ofValue value) ∨
    value.number? = none ∧ ofValue value = whole 0 := by
  cases value with
  | int n => exact .inl rfl
  | double x => exact .inl rfl
  | _ => exact .inr ⟨rfl, rfl⟩

/-- What is not a number makes no difference to a sum. -/
theorem Settled.foldlM_ofValue {start : Quantity} (h : start.Settled) (values : List Value) :
    (values.map ofValue).foldlM Quantity.add start =
      (values.filterMap Value.number?).foldlM Quantity.add start := by
  induction values generalizing start with
  | nil => rfl
  | cons value rest ih =>
      rw [List.map_cons, List.foldlM_cons]
      rcases ofValue_cases value with hnumber | ⟨hnone, hzero⟩
      · rw [List.filterMap_cons_some hnumber, List.foldlM_cons]
        cases hsum : start.add (ofValue value) with
        | error fault => rfl
        | ok sum => exact ih (h.add hsum)
      · rw [List.filterMap_cons_none hnone, hzero, h]
        exact ih h

theorem sum_map_ofValue (values : List Value) :
    sum (values.map ofValue) = sum (values.filterMap Value.number?) :=
  (settled_whole 0).foldlM_ofValue values

theorem sum_of_integers {values : List Value} (h : ∀ value ∈ values, ∀ x, value ≠ .double x) :
    sum (values.map ofValue) = .ok (whole (values.map Value.integer).sum) := by
  have hfold (start : Int) : (values.map ofValue).foldlM Quantity.add (whole start) =
      .ok (whole (start + (values.map Value.integer).sum)) := by
    induction values generalizing start with
    | nil => simp [pure, Except.pure]
    | cons value rest ih =>
        obtain ⟨hvalue, hrest⟩ := List.forall_mem_cons.mp h
        have hwhole : ofValue value = whole value.integer := by
          cases value with
          | double x => exact absurd rfl (hvalue x)
          | _ => rfl
        rw [List.map_cons, List.foldlM_cons, hwhole, List.map_cons, List.sum_cons, ← Int.add_assoc]
        exact ih hrest (start + value.integer)
  rw [sum, hfold, Int.zero_add]

end Quantity

namespace Accumulator

theorem total_eq_sum_numbers (docs : List Document) (field : String) :
    total docs field = Quantity.sum (docs.filterMap fun doc => (doc.get field).number?) := by
  have h := Quantity.sum_map_ofValue (docs.map fun doc => doc.get field)
  rw [List.map_map, List.filterMap_map] at h
  exact h

/-- The sum of a field that holds no doubles. -/
theorem total_of_integers {docs : List Document} {field : String}
    (h : ∀ doc ∈ docs, ∀ x, doc.get field ≠ .double x) :
    total docs field = .ok (.whole (docs.map fun doc => (doc.get field).integer).sum) := by
  have hvalues : ∀ value ∈ docs.map fun doc => doc.get field, ∀ x, value ≠ .double x :=
    List.forall_mem_map.mpr h
  have hsum := Quantity.sum_of_integers hvalues
  rw [List.map_map, List.map_map] at hsum
  exact hsum

end Accumulator

end Docbase
