import Docbase.Number.Decimal
import Mathlib.Algebra.Order.Field.Power
import Mathlib.Algebra.Order.Field.Rat
import Mathlib.Data.Nat.Log
import Mathlib.Tactic.FieldSimp
import Mathlib.Tactic.Linarith
import Mathlib.Tactic.NormNum
import Mathlib.Tactic.Positivity
import Mathlib.Tactic.Ring

/-! # Decimals that read back

The decimals that read back as a double lie in an interval around it, and no decimal lies in the
intervals of two doubles. Seventeen digits suffice to meet the interval of any double, so that the
search for the shortest decimal that reads back always finds one, and the decimal tells the double.
-/

namespace Docbase.Double

/-! ## Grains -/

/-- The distance from a number of quanta to the next one above that a double can be. -/
def grain (quanta : Nat) : Nat :=
  2 ^ excess quanta

/-- A number of quanta that a double can be. -/
def IsQuanta (quanta : Nat) : Prop :=
  grain quanta ∣ quanta ∧ quanta < limit

instance (quanta : Nat) : Decidable (IsQuanta quanta) :=
  inferInstanceAs (Decidable (_ ∧ _))

section

variable {q q' : Nat}

theorem grain_pos (q : Nat) : 0 < grain q :=
  Nat.two_pow_pos _

theorem excess_mono (h : q ≤ q') : excess q ≤ excess q' := by
  unfold excess
  rw [Nat.log2_eq_log_two, Nat.log2_eq_log_two]
  exact Nat.sub_le_sub_right (Nat.log_mono_right h) 52

theorem grain_dvd_grain (h : q ≤ q') : grain q ∣ grain q' :=
  Nat.pow_dvd_pow 2 (excess_mono h)

theorem isQuanta_one : IsQuanta one := by
  decide +kernel

theorem lt_grain (q : Nat) : q < 2 ^ 53 * grain q := by
  have hlog : q < 2 ^ (q.log2 + 1) := Nat.lt_log2_self
  have hexcess : q.log2 + 1 ≤ 53 + excess q := by
    unfold excess
    omega
  rw [grain, ← Nat.pow_add]
  exact hlog.trans_le (Nat.pow_le_pow_right (by decide) hexcess)

/-- All of the bits of a number are used before it gives up any. -/
theorem grain_eq_one_or (h : q ≠ 0) : grain q = 1 ∨ 2 ^ 52 * grain q ≤ q := by
  by_cases hlow : q.log2 ≤ 52
  · left
    rw [grain, excess, Nat.sub_eq_zero_of_le hlow, Nat.pow_zero]
  · right
    have hsum : 52 + excess q = q.log2 := by
      unfold excess
      omega
    rw [grain, ← Nat.pow_add, hsum]
    exact Nat.log2_self_le h

theorem grain_le (h : q ≠ 0) : grain q ≤ q := by
  rcases grain_eq_one_or h with hone | hlarge
  · omega
  · exact le_trans (Nat.le_mul_of_pos_left _ (by decide)) hlarge

end

/-! ## Intervals around doubles -/

/-- A rational lies where decimals read back as a number of quanta. The bounds, which are in
quarters of a quantum, belong to the interval if the number is an even one of grains. -/
structure Near (quanta : Nat) (x : ℚ) : Prop where
  low : (4 * quanta : ℚ) - (reach quanta).1 ≤ 4 * x
  high : 4 * x ≤ 4 * quanta + (reach quanta).2
  inside : quanta / grain quanta % 2 = 1 →
    (4 * quanta : ℚ) - (reach quanta).1 < 4 * x ∧ 4 * x < 4 * quanta + (reach quanta).2

section

variable {q q' num den : Nat} {x : ℚ}

theorem reach_eq (q : Nat) : reach q =
    if 1 < grain q ∧ q = 2 ^ 52 * grain q then (grain q, 2 * grain q)
    else (2 * grain q, 2 * grain q) := rfl

theorem reach_above (q : Nat) : (reach q).2 = 2 * grain q := by
  rw [reach_eq]
  split <;> rfl

theorem reach_below_le (q : Nat) : (reach q).1 ≤ 2 * grain q := by
  rw [reach_eq]
  split
  next => exact Nat.le_mul_of_pos_left _ (by decide)
  next => exact le_rfl

theorem reach_below_of_power (hgrain : 1 < grain q) (h : q = 2 ^ 52 * grain q) :
    (reach q).1 = grain q := by
  rw [reach_eq, if_pos ⟨hgrain, h⟩]

/-- A bound may be multiplied by the denominator of what it bounds. -/
theorem scaled_iff (num : Nat) (hden : 0 < den) {bound : Nat} {y : ℚ} (h : (bound : ℚ) = y * den) :
    ((bound ≤ 4 * num ↔ y ≤ 4 * (num / den)) ∧ (bound < 4 * num ↔ y < 4 * (num / den))) ∧
      (4 * num ≤ bound ↔ 4 * (num / den) ≤ y) ∧ (4 * num < bound ↔ 4 * (num / den) < y) := by
  have hden' : (0 : ℚ) < den := by exact_mod_cast hden
  have hcancel : (4 * (num / den : ℚ)) * den = (4 * num : ℕ) := by
    push_cast
    field_simp
  rw [← mul_le_mul_iff_left₀ (b := y) hden', ← mul_lt_mul_iff_left₀ (b := y) hden',
    ← mul_le_mul_iff_left₀ (c := y) hden', ← mul_lt_mul_iff_left₀ (c := y) hden', hcancel, ← h]
  simp only [Nat.cast_le, Nat.cast_lt, and_self]

theorem readsBack_iff (hq : q ≠ 0) (hden : 0 < den) :
    readsBack q num den = true ↔ Near q (num / den) := by
  have hgrain := grain_le hq
  have hbelow : (reach q).1 ≤ 4 * q := (reach_below_le q).trans (by omega)
  obtain ⟨⟨hle, hlt⟩, -⟩ := scaled_iff num hden
    (show (((4 * q - (reach q).1) * den : ℕ) : ℚ) = ((4 * q : ℚ) - (reach q).1) * den by
      push_cast [Nat.cast_sub hbelow]
      ring)
  obtain ⟨-, hle', hlt'⟩ := scaled_iff num hden
    (show (((4 * q + (reach q).2) * den : ℕ) : ℚ) = ((4 * q : ℚ) + (reach q).2) * den by
      push_cast
      ring)
  have hreads : readsBack q num den =
      if q / grain q % 2 == 0 then
        (4 * q - (reach q).1) * den ≤ 4 * num && 4 * num ≤ (4 * q + (reach q).2) * den
      else (4 * q - (reach q).1) * den < 4 * num && 4 * num < (4 * q + (reach q).2) * den := rfl
  rw [hreads]
  split
  next heven =>
    rw [Bool.and_eq_true, decide_eq_true_iff, decide_eq_true_iff, hle, hle']
    have hnever : ¬q / grain q % 2 = 1 := by
      rw [beq_iff_eq] at heven
      omega
    exact ⟨fun h => ⟨h.1, h.2, fun hodd => absurd hodd hnever⟩, fun h => ⟨h.low, h.high⟩⟩
  next hodd =>
    rw [Bool.and_eq_true, decide_eq_true_iff, decide_eq_true_iff, hlt, hlt']
    have hone : q / grain q % 2 = 1 := by
      rw [beq_iff_eq] at hodd
      omega
    exact ⟨fun h => ⟨h.1.le, h.2.le, fun _ => h⟩, fun h => h.inside hone⟩

/-- Numbers of grains of one size or of two sizes are as far apart as their grains reach. -/
theorem grains_apart {g m j m' below : Nat} (hg : 0 < g) (hm : m < 2 ^ 53)
    (hbelow : below ≤ 2 * (g * j))
    (hj : j = 1 ∧ m < m' ∨ 2 ≤ j ∧ 2 ^ 52 ≤ m' ∧ (m' = 2 ^ 52 → below = g * j)) :
    4 * (g * m) + 2 * g + below < 4 * (g * j * m') ∨
      4 * (g * m) + 2 * g + below = 4 * (g * j * m') ∧ (m % 2 = 1 ∨ m' % 2 = 1) := by
  rcases hj with ⟨rfl, hlt⟩ | ⟨hj, hlarge, hpower'⟩
  · -- Among grains of one size only neighbours meet, and one of two neighbours is odd.
    rw [Nat.mul_one] at hbelow ⊢
    by_cases hnext : m' = m + 1
    · subst hnext
      have hmul : g * (m + 1) = g * m + g := Nat.mul_succ g m
      omega
    · have hmul : g * (m + 2) ≤ g * m' := Nat.mul_le_mul_left g (by omega)
      have hexpand : g * (m + 2) = g * m + 2 * g := by ring
      omega
  · have hgj : 2 * g ≤ g * j := by
      rw [Nat.mul_comm]
      exact Nat.mul_le_mul_left g hj
    -- At the least of the larger grains the interval below is half as wide as the one above.
    by_cases hpower : m' = 2 ^ 52
    · have hgrain := hpower' hpower
      subst hpower
      by_cases hlast : m = 2 ^ 53 - 1
      · subst hlast
        omega
      · have hmul : g * m ≤ g * (2 ^ 53 - 2) := Nat.mul_le_mul_left g (by omega)
        omega
    · have hmul : g * m ≤ g * (2 ^ 53 - 1) := Nat.mul_le_mul_left g (by omega)
      have hmul' : g * j * (2 ^ 52 + 1) ≤ g * j * m' := Nat.mul_le_mul_left _ (by omega)
      omega

/-- The intervals of two doubles have at most a bound in common, and then it belongs to one of them
only. -/
theorem reach_apart (hq : IsQuanta q) (hq' : IsQuanta q') (hpos : q ≠ 0) (h : q < q') :
    4 * q + (reach q).2 + (reach q').1 < 4 * q' ∨
      4 * q + (reach q).2 + (reach q').1 = 4 * q' ∧
        (q / grain q % 2 = 1 ∨ q' / grain q' % 2 = 1) := by
  obtain ⟨m, hm⟩ := hq.1
  obtain ⟨m', hm'⟩ := hq'.1
  obtain ⟨j, hj⟩ := grain_dvd_grain h.le
  have hgrain := grain_pos q
  have hgrain' := grain_pos q'
  have hlt := lt_grain q
  have hlarge := grain_eq_one_or (show q' ≠ 0 by omega)
  have hbelow := reach_below_le q'
  have hpower := @reach_below_of_power q'
  have hquotient : q / grain q = m := Nat.div_eq_of_eq_mul_right hgrain hm
  have hquotient' : q' / grain q' = m' := Nat.div_eq_of_eq_mul_right hgrain' hm'
  rw [reach_above, hquotient, hquotient']
  generalize (reach q').1 = below at *
  generalize grain q = g at *
  generalize grain q' = g' at *
  subst hm hm' hj
  have hm : m < 2 ^ 53 := Nat.lt_of_mul_lt_mul_left (by rwa [Nat.mul_comm (2 ^ 53)] at hlt)
  refine grains_apart hgrain hm hbelow ?_
  rcases Nat.lt_trichotomy j 1 with hj | rfl | hj
  · rw [Nat.lt_one_iff.mp hj, Nat.mul_zero] at hgrain'
    exact absurd hgrain' (lt_irrefl 0)
  · left
    rw [Nat.mul_one] at h
    exact ⟨rfl, Nat.lt_of_mul_lt_mul_left h⟩
  · -- The larger double has all of its bits.
    right
    have hgj : 1 < g * j := lt_of_lt_of_le hj (Nat.le_mul_of_pos_left j hgrain)
    refine ⟨hj, ?_, fun heq => hpower hgj (by rw [heq, Nat.mul_comm])⟩
    rcases hlarge with hone | hlarge
    · omega
    · rw [Nat.mul_comm (2 ^ 52)] at hlarge
      exact Nat.le_of_mul_le_mul_left hlarge hgrain'

theorem near_unique (hq : IsQuanta q) (hq' : IsQuanta q') (hpos : q ≠ 0) (hpos' : q' ≠ 0)
    (hx : Near q x) (hx' : Near q' x) : q = q' := by
  wlog h : q < q' generalizing q q'
  · rcases Nat.lt_trichotomy q q' with hlt | heq | hgt
    · exact absurd hlt h
    · exact heq
    · exact (this hq' hq hpos' hpos hx' hx hgt).symm
  · exfalso
    have hhigh := hx.high
    have hlow := hx'.low
    rcases reach_apart hq hq' hpos h with hapart | ⟨hmeet, hodd⟩
    · have hcast : (4 * q + (reach q).2 + (reach q').1 : ℚ) < 4 * q' := by exact_mod_cast hapart
      linarith
    · -- The common bound is left out by the one of the two that is odd.
      have hcast : (4 * q + (reach q).2 + (reach q').1 : ℚ) = 4 * q' := by exact_mod_cast hmeet
      rcases hodd with hodd | hodd
      · have hstrict := (hx.inside hodd).2
        linarith
      · have hstrict := (hx'.inside hodd).1
        linarith

end

/-! ## The shortest decimal -/

/-- The quanta in a multiple of a power of ten. -/
def worth (n : Nat) (exponent : Int) : ℚ :=
  n * 10 ^ exponent * one

section

variable {q n : Nat} {exponent : Int}

theorem one_pos : 0 < one := by
  have hpow (k : Nat) : 0 < Nat.pow 2 k := Nat.pow_pos (by decide)
  unfold one
  generalize 1074 = k
  exact hpow k

theorem tenPower_den_pos (exponent : Int) : 0 < (tenPower exponent).2 := by
  unfold tenPower
  split
  next => exact Nat.one_pos
  next => exact Nat.pow_pos (by decide)

theorem tenPower_num_pos (exponent : Int) : 0 < (tenPower exponent).1 := by
  unfold tenPower
  split
  next =>
    dsimp only
    exact Nat.mul_pos (Nat.pow_pos (by decide)) one_pos
  next =>
    dsimp only
    exact one_pos

-- The number of quanta in one is too large to be computed with, and never has to be.
theorem tenPower_quotient (exponent : Int) :
    ((tenPower exponent).1 / (tenPower exponent).2 : ℚ) = 10 ^ exponent * one := by
  unfold tenPower
  generalize one = unit
  split
  next hnonneg =>
    obtain ⟨k, rfl⟩ := Int.eq_ofNat_of_zero_le hnonneg
    simp
  next hneg =>
    obtain ⟨k, rfl⟩ : ∃ k : Nat, exponent = -k := ⟨exponent.natAbs, by omega⟩
    simp [div_eq_mul_inv, mul_comm]

theorem worth_eq (n : Nat) (exponent : Int) :
    worth n exponent = ((n * (tenPower exponent).1 : ℕ) : ℚ) / (tenPower exponent).2 := by
  rw [worth, mul_assoc, ← tenPower_quotient]
  push_cast
  ring

/-- A multiple that is found on a grid reads back. -/
theorem near_of_onGrid? (hpos : q ≠ 0) (h : onGrid? q exponent = some n) :
    Near q (worth n exponent) := by
  rw [worth_eq, ← readsBack_iff hpos (tenPower_den_pos exponent)]
  unfold onGrid? at h
  dsimp only at h
  split at h
  all_goals
    split at h
    next hfits =>
      cases h
      exact hfits
    next =>
      split at h
      next hfits =>
        cases h
        exact hfits
      next => cases h

theorem pow_length_le {d : Nat} (hd : 0 < d) : 10 ^ ((digitsOf d).length - 1) ≤ d := by
  by_cases hsize : (digitsOf d).length - 1 = 0
  · rw [hsize]
    exact hd
  · by_contra hlt
    have hshort := (Nat.length_toDigits_le_iff (by decide) (Nat.pos_of_ne_zero hsize)).mpr
      (Nat.lt_of_not_le hlt)
    unfold digitsOf at hsize hshort
    omega

/-- The power of ten that a number begins with does not exceed it. -/
theorem pow_leadExponent_le {num den : Nat} (hden : 0 < den)
    (hlarge : ∃ k < 330, den ≤ num * 10 ^ (k + 1)) :
    (10 : ℚ) ^ leadExponent num den * den ≤ num := by
  unfold leadExponent
  split
  next hle =>
    have hquotient : 0 < num / den := Nat.div_pos hle hden
    have hsize : 0 < (digitsOf (num / den)).length := Nat.length_toDigits_pos
    have hpow : 10 ^ ((digitsOf (num / den)).length - 1) * den ≤ num :=
      (Nat.mul_le_mul_right den (pow_length_le hquotient)).trans (Nat.div_mul_le_self num den)
    have hexponent : ((digitsOf (num / den)).length : Int) - 1 =
        ((digitsOf (num / den)).length - 1 : ℕ) := by
      omega
    rw [hexponent, zpow_natCast]
    exact_mod_cast hpow
  next =>
    cases hfind : (List.range 330).find? fun k => den ≤ num * Nat.pow 10 (k + 1) with
    | none =>
        obtain ⟨k, hk, hle⟩ := hlarge
        have hnone := List.find?_eq_none.mp hfind k (List.mem_range.mpr hk)
        exact absurd (decide_eq_true hle) hnone
    | some k =>
        have hk : den ≤ num * 10 ^ (k + 1) := by simpa using List.find?_some hfind
        have hcast : (den : ℚ) ≤ num * 10 ^ (k + 1) := by exact_mod_cast hk
        have hpos : (0 : ℚ) < 10 ^ (k + 1) := by positivity
        rw [Option.getD_some, zpow_negSucc, inv_mul_le_iff₀ hpos]
        linarith

theorem one_le_pow {k : Nat} (hk : 1074 = 93 * k + 51) : one ≤ 10 ^ (28 * k + 15 + 1) := by
  have hpow : (2 ^ 93) ^ k ≤ (10 ^ 28) ^ k := Nat.pow_le_pow_left (by norm_num) k
  unfold one
  rw [hk]
  calc
    2 ^ (93 * k + 51) = (2 ^ 93) ^ k * 2 ^ 51 := by rw [pow_add, pow_mul]
    _ ≤ (10 ^ 28) ^ k * 10 ^ 16 := Nat.mul_le_mul hpow (by norm_num)
    _ = 10 ^ (28 * k + 15 + 1) := by rw [add_assoc, pow_add, pow_mul]

/-- No number of quanta is so small that its first digit is not found. -/
theorem one_le_mul_pow (hpos : q ≠ 0) : ∃ k < 330, one ≤ q * 10 ^ (k + 1) :=
  ⟨28 * 11 + 15, by decide,
    (one_le_pow (k := 11) rfl).trans (Nat.le_mul_of_pos_left _ (Nat.pos_of_ne_zero hpos))⟩

theorem near_of_close {x : ℚ} (hlow : 4 * (q - x) < (reach q).1)
    (hhigh : 4 * (x - q) < (reach q).1) : Near q x := by
  have habove : ((reach q).1 : ℚ) ≤ (reach q).2 := by
    rw [reach_above]
    exact_mod_cast reach_below_le q
  have hboth : (4 * q : ℚ) - (reach q).1 < 4 * x ∧ 4 * x < 4 * q + (reach q).2 := by
    constructor <;> linarith
  exact ⟨hboth.1.le, hboth.2.le, fun _ => hboth⟩

/-- Steps of one in the seventeenth digit are smaller than what reads back. -/
theorem step_lt_reach {step : ℚ} (hstep : 10 ^ 16 * step ≤ q) :
    2 * step < (reach q).1 := by
  have hgrain : (0 : ℚ) < grain q := by exact_mod_cast grain_pos q
  rw [reach_eq]
  split
  next hpower =>
    have hq : (q : ℚ) = 2 ^ 52 * grain q := by exact_mod_cast hpower.2
    dsimp only
    linarith
  next =>
    have hq : (q : ℚ) < 2 ^ 53 * grain q := by exact_mod_cast lt_grain q
    push_cast
    linarith

/-- The nearest multiple on a grid is found if it reads back. -/
theorem onGrid?_of_reach (hpos : q ≠ 0)
    (hstep : (2 * (10 ^ exponent * one) : ℚ) < (reach q).1) :
    ∃ n, onGrid? q exponent = some n := by
  have hnum := tenPower_num_pos exponent
  have hden := tenPower_den_pos exponent
  rw [← tenPower_quotient] at hstep
  unfold onGrid?
  generalize tenPower exponent = power at *
  obtain ⟨num, den⟩ := power
  dsimp only at hnum hden hstep ⊢
  have hden' : (0 : ℚ) < den := by exact_mod_cast hden
  have hsplit : num * (q * den / num) + q * den % num = q * den := Nat.div_add_mod _ _
  have hrest : q * den % num < num := Nat.mod_lt _ hnum
  generalize q * den / num = below at *
  generalize q * den % num = rest at *
  have hexact : (q : ℚ) = below * (num / den) + rest / den := by
    field_simp
    exact_mod_cast (by rw [← hsplit]; ring)
  have hnonneg : (0 : ℚ) ≤ rest / den := by positivity
  have hstepRest : (rest / den : ℚ) ≤ num / den :=
    div_le_div_of_nonneg_right (by exact_mod_cast hrest.le) hden'.le
  have hfits {n : Nat} (hlow : 4 * (q - n * (num / den : ℚ)) < (reach q).1)
      (hhigh : 4 * (n * (num / den : ℚ) - q) < (reach q).1) :
      readsBack q (n * num) den = true := by
    have hvalue : ((n * num : ℕ) / den : ℚ) = n * (num / den) := by
      push_cast
      ring
    rw [readsBack_iff hpos hden, hvalue]
    exact near_of_close hlow hhigh
  split
  next hupper =>
    have hhalf : num ≤ 2 * rest := by
      rw [Bool.or_eq_true, Bool.and_eq_true, decide_eq_true_iff, beq_iff_eq] at hupper
      omega
    have hcast : (num / den : ℚ) ≤ 2 * (rest / den) := by
      rw [← mul_div_assoc]
      exact div_le_div_of_nonneg_right (by exact_mod_cast hhalf) hden'.le
    have hfirst : readsBack q ((below + 1) * num) den = true := by
      refine hfits ?_ ?_ <;> push_cast <;> linarith
    exact ⟨below + 1, if_pos hfirst⟩
  next hlower =>
    have hhalf : 2 * rest ≤ num := by
      rw [Bool.or_eq_true, decide_eq_true_iff] at hlower
      omega
    have hcast : 2 * (rest / den : ℚ) ≤ num / den := by
      rw [← mul_div_assoc]
      exact div_le_div_of_nonneg_right (by exact_mod_cast hhalf) hden'.le
    have hfirst : readsBack q (below * num) den = true := by
      refine hfits ?_ ?_ <;> linarith
    exact ⟨below, if_pos hfirst⟩

/-- Seventeen digits are enough for some decimal to read back. -/
theorem onGrid?_seventeen (hpos : q ≠ 0) :
    ∃ n, onGrid? q (leadExponent q one - 16) = some n := by
  refine onGrid?_of_reach hpos (step_lt_reach ?_)
  have hlead := pow_leadExponent_le one_pos (one_le_mul_pow hpos)
  rw [zpow_sub₀ (by norm_num)]
  generalize one = unit at *
  refine le_trans (le_of_eq ?_) hlead
  field_simp

theorem near_shortest (hpos : q ≠ 0) :
    Near q (worth (shortest q).1 (shortest q).2) := by
  unfold shortest
  dsimp only
  cases hfound : (List.range 17).findSome? fun (k : Nat) =>
      (onGrid? q (leadExponent q one - (k : Int))).map fun n =>
        (n, leadExponent q one - (k : Int)) with
  | none =>
      obtain ⟨n, hn⟩ := onGrid?_seventeen hpos
      have hnone := List.findSome?_eq_none_iff.mp hfound 16 (List.mem_range.mpr (by decide))
      simp [hn] at hnone
  | some found =>
      obtain ⟨k, -, hk⟩ := List.exists_of_findSome?_eq_some hfound
      obtain ⟨n, hn, rfl⟩ := Option.map_eq_some_iff.mp hk
      exact near_of_onGrid? hpos hn

theorem Near.pos {x : ℚ} (hpos : q ≠ 0) (h : Near q x) : 0 < x := by
  have hbelow : (reach q).1 ≤ 2 * q :=
    (reach_below_le q).trans (Nat.mul_le_mul_left 2 (grain_le hpos))
  have hcast : ((reach q).1 : ℚ) ≤ 2 * q := by exact_mod_cast hbelow
  have hq : (0 : ℚ) < q := by exact_mod_cast Nat.pos_of_ne_zero hpos
  have hlow := h.low
  linarith

theorem shortest_ne_zero (hpos : q ≠ 0) : (shortest q).1 ≠ 0 := by
  intro hzero
  have hnear := (near_shortest hpos).pos hpos
  rw [worth, hzero, Nat.cast_zero, zero_mul, zero_mul] at hnear
  exact lt_irrefl 0 hnear

end

end Docbase.Double
