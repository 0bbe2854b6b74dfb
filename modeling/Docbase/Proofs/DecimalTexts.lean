import Docbase.Proofs.Decimals
import Mathlib.Data.List.TakeWhile

/-! # The texts of doubles

However a double is laid out, its text writes a decimal that reads back as the double. No two
doubles therefore have one text, and the text of a double is never that of an integer.
-/

namespace Docbase

/-- Text that is made of decimal digits. -/
def AllDigits (text : List Char) : Prop :=
  ∀ c ∈ text, c.isDigit = true

namespace AllDigits

variable {text text' : List Char}

theorem append (h : AllDigits text) (h' : AllDigits text') : AllDigits (text ++ text') := by
  intro c hc
  rcases List.mem_append.mp hc with hc | hc
  · exact h c hc
  · exact h' c hc

theorem zeros (n : Nat) : AllDigits (List.replicate n '0') := by
  intro c hc
  rw [List.eq_of_mem_replicate hc]
  rfl

theorem digitsOf (n : Nat) : AllDigits (Double.digitsOf n) :=
  fun _ hc => Nat.isDigit_of_mem_toDigits (by decide) (by decide) hc

theorem ne {c mark : Char} (h : AllDigits text) (hc : c ∈ text) (hmark : mark.isDigit = false) :
    c ≠ mark := by
  rintro rfl
  rw [h c hc] at hmark
  cases hmark

end AllDigits

namespace Double

/-- The number that decimal digits write. -/
def digitsValue (digits : List Char) : Nat :=
  Nat.ofDigitChars 10 digits 0

section

variable {digits digits' : List Char}

theorem digitsValue_append (digits digits' : List Char) :
    digitsValue (digits ++ digits') =
      10 ^ digits'.length * digitsValue digits + digitsValue digits' := by
  rw [digitsValue, Nat.ofDigitChars_append, Nat.ofDigitChars_eq_ofDigitChars_zero]
  rfl

@[simp]
theorem digitsValue_zeros (n : Nat) : digitsValue (List.replicate n '0') = 0 := by
  simp [digitsValue]

@[simp]
theorem digitsValue_digitsOf (n : Nat) : digitsValue (digitsOf n) = n :=
  Nat.ofDigitChars_ten_toDigits

/-- Zeros in front make no difference. -/
@[simp]
theorem digitsValue_zeros_append (n : Nat) (digits : List Char) :
    digitsValue (List.replicate n '0' ++ digits) = digitsValue digits := by
  rw [digitsValue_append, digitsValue_zeros, Nat.mul_zero, Nat.zero_add]

@[simp]
theorem digitsValue_zero_cons (digits : List Char) :
    digitsValue ('0' :: digits) = digitsValue digits :=
  digitsValue_zeros_append 1 digits

theorem digitsValue_append_zeros (digits : List Char) (n : Nat) :
    digitsValue (digits ++ List.replicate n '0') = 10 ^ n * digitsValue digits := by
  rw [digitsValue_append, digitsValue_zeros, List.length_replicate, Nat.add_zero]

/-- Zeros are taken off at the end. -/
theorem stripZeros_append (digits : List Char) :
    (stripZeros digits).1 ++ List.replicate (stripZeros digits).2 '0' = digits := by
  have hsplit := List.takeWhile_append_dropWhile (p := (· == '0')) (l := digits.reverse)
  have hzeros : digits.reverse.takeWhile (· == '0') =
      List.replicate (digits.reverse.takeWhile (· == '0')).length '0' := by
    rw [List.eq_replicate_iff]
    exact ⟨rfl, fun c hc => by simpa using List.mem_takeWhile_imp hc⟩
  have hlength : (stripZeros digits).2 = (digits.reverse.takeWhile (· == '0')).length := by
    have hsum := congrArg List.length hsplit
    rw [List.length_append, List.length_reverse] at hsum
    simp only [stripZeros, List.length_reverse]
    omega
  rw [hlength, ← List.reverse_inj, List.reverse_append, List.reverse_replicate, ← hzeros]
  simp [stripZeros]

theorem stripZeros_ne_nil {n : Nat} (h : n ≠ 0) : (stripZeros (digitsOf n)).1 ≠ [] := by
  intro hnil
  have hdigits := stripZeros_append (digitsOf n)
  rw [hnil, List.nil_append] at hdigits
  have hvalue := digitsValue_digitsOf n
  rw [← hdigits, digitsValue_zeros] at hvalue
  exact h hvalue.symm

theorem allDigits_stripZeros {digits : List Char} (h : AllDigits digits) :
    AllDigits (stripZeros digits).1 := by
  intro c hc
  refine h c ?_
  rw [← stripZeros_append digits]
  exact List.mem_append_left _ hc

end

/-! ## Decimals as they are written -/

/-- The exponent at the end of a decimal, which follows a letter and a sign. -/
def exponentOf : List Char → Int
  | _ :: '-' :: size => -(digitsValue size : Int)
  | _ :: _ :: size => digitsValue size
  | _ => 0

/-- Digits behind a point, which is left out if there are none. -/
def afterPoint (fraction : List Char) : List Char :=
  if fraction.isEmpty then [] else '.' :: fraction

/-- The number that a decimal writes. -/
def written (text : List Char) : ℚ :=
  let mantissa := text.takeWhile (· != 'e')
  let fraction := (mantissa.dropWhile (· != '.')).drop 1
  digitsValue (mantissa.filter (· != '.')) *
    10 ^ (exponentOf (text.dropWhile (· != 'e')) - fraction.length)

/-- A text is a decimal: digits, then a point with more of them or an exponent, or both. -/
def IsDecimal (text : List Char) (value : ℚ) : Prop :=
  ∃ whole fraction exponent, text = whole ++ afterPoint fraction ++ exponent ∧
    whole ≠ [] ∧ AllDigits whole ∧ AllDigits fraction ∧
    (exponent = [] ∧ fraction ≠ [] ∨ ∃ sign size, exponent = 'e' :: sign :: size ∧
      (sign = '-' ∨ sign = '+') ∧ AllDigits size) ∧
    value = digitsValue (whole ++ fraction) * 10 ^ (exponentOf exponent - fraction.length)

section

variable {whole fraction exponent text digits : List Char} {value value' : ℚ}

theorem mem_afterPoint {c : Char} (h : c ∈ afterPoint fraction) : c = '.' ∨ c ∈ fraction := by
  unfold afterPoint at h
  split at h
  next => cases h
  next => exact List.mem_cons.mp h

theorem written_append (hwhole : AllDigits whole) (hfraction : AllDigits fraction)
    (hexponent : exponent = [] ∨ ∃ rest, exponent = 'e' :: rest) :
    written (whole ++ afterPoint fraction ++ exponent) =
      digitsValue (whole ++ fraction) * 10 ^ (exponentOf exponent - fraction.length) := by
  have hmantissa : ∀ c ∈ whole ++ afterPoint fraction, (c != 'e') = true := by
    intro c hc
    rw [bne_iff_ne]
    rcases List.mem_append.mp hc with hc | hc
    · exact hwhole.ne hc rfl
    · rcases mem_afterPoint hc with rfl | hc
      · decide
      · exact hfraction.ne hc rfl
  have hends : exponent.takeWhile (· != 'e') = [] ∧ exponent.dropWhile (· != 'e') = exponent := by
    rcases hexponent with rfl | ⟨rest, rfl⟩ <;> simp
  have hdigits {part : List Char} (hpart : AllDigits part) :
      part.filter (· != '.') = part ∧ part.dropWhile (· != '.') = [] := by
    have hne : ∀ c ∈ part, (c != '.') = true := fun c hc => bne_iff_ne.mpr (hpart.ne hc rfl)
    exact ⟨List.filter_eq_self.mpr hne, List.dropWhile_eq_nil_iff.mpr hne⟩
  have hfilter : (afterPoint fraction).filter (· != '.') = fraction ∧
      ((afterPoint fraction).dropWhile (· != '.')).drop 1 = fraction := by
    unfold afterPoint
    split
    next hempty =>
      rw [List.isEmpty_iff.mp hempty]
      exact ⟨rfl, rfl⟩
    next => simpa using (hdigits hfraction).1
  have hdrop : (whole ++ afterPoint fraction).dropWhile (· != '.') =
      (afterPoint fraction).dropWhile (· != '.') :=
    List.dropWhile_append_of_pos fun c hc => bne_iff_ne.mpr (hwhole.ne hc rfl)
  unfold written
  dsimp only
  rw [List.takeWhile_append_of_pos hmantissa, List.dropWhile_append_of_pos hmantissa, hends.1,
    hends.2, List.append_nil, List.filter_append, (hdigits hwhole).1, hfilter.1, hdrop, hfilter.2]

theorem IsDecimal.written_eq (h : IsDecimal text value) : written text = value := by
  obtain ⟨whole, fraction, exponent, rfl, -, hwhole, hfraction, hexponent, rfl⟩ := h
  refine written_append hwhole hfraction ?_
  rcases hexponent with ⟨rfl, -⟩ | ⟨sign, size, rfl, -⟩
  · exact .inl rfl
  · exact .inr ⟨_, rfl⟩

theorem IsDecimal.of_eq (h : IsDecimal text value) (heq : value = value') :
    IsDecimal text value' :=
  heq ▸ h

/-- A decimal without an exponent. -/
theorem IsDecimal.plain (hne : whole ≠ []) (hwhole : AllDigits whole)
    (hfraction : AllDigits fraction) (hsome : fraction ≠ []) :
    IsDecimal (whole ++ '.' :: fraction)
      (digitsValue (whole ++ fraction) * 10 ^ (-(fraction.length : Int))) := by
  refine ⟨whole, fraction, [], ?_, hne, hwhole, hfraction, .inl ⟨rfl, hsome⟩, ?_⟩
  · rw [afterPoint, if_neg (by simpa using hsome), List.append_nil]
  · rw [← Int.zero_sub]
    rfl

/-- The size of an exponent is written with two digits at least. -/
theorem exponentOf_size (lead : Int) {size : List Char}
    (hsize : digitsValue size = lead.natAbs) :
    exponentOf ('e' :: (if lead < 0 then '-' else '+') :: size) = lead := by
  split
  next hneg =>
    rw [exponentOf, hsize]
    omega
  next hnonneg =>
    rw [exponentOf, hsize]
    · omega
    · decide

/-- A decimal with an exponent, which is that of its first digit. -/
theorem IsDecimal.scientific {first : Char} {rest size : List Char} {lead : Int}
    (hdigits : AllDigits (first :: rest)) (hall : AllDigits size)
    (hsize : digitsValue size = lead.natAbs) :
    IsDecimal ([first] ++ afterPoint rest ++ ['e', if lead < 0 then '-' else '+'] ++ size)
      (digitsValue (first :: rest) * 10 ^ (lead + 1 - (first :: rest).length)) := by
  refine ⟨[first], rest, 'e' :: (if lead < 0 then '-' else '+') :: size, by simp, by simp,
    fun c hc => hdigits c (by simp_all), fun c hc => hdigits c (by simp [hc]),
    .inr ⟨_, size, rfl, ?_, hall⟩, ?_⟩
  · split <;> simp
  · rw [exponentOf_size lead hsize, List.length_cons]
    congr 2
    push_cast
    ring

section

variable (hdigits : AllDigits digits) (hne : digits ≠ [])

include hdigits hne

/-- Digits behind a point and some zeros. -/
theorem IsDecimal.belowOne (zeros : Nat) :
    IsDecimal (['0'] ++ '.' :: (List.replicate zeros '0' ++ digits))
      (digitsValue digits * 10 ^ (-(zeros : Int) - digits.length)) := by
  have hplain : IsDecimal (['0'] ++ '.' :: (List.replicate zeros '0' ++ digits)) _ :=
    .plain (by simp) (AllDigits.zeros 1) ((AllDigits.zeros zeros).append hdigits) (by simp [hne])
  refine hplain.of_eq ?_
  rw [List.singleton_append, digitsValue_zero_cons, digitsValue_zeros_append,
    List.length_append, List.length_replicate]
  congr 2
  omega

/-- Digits in front of a point, with some zeros between. -/
theorem IsDecimal.integral (zeros : Nat) :
    IsDecimal (digits ++ List.replicate zeros '0' ++ ['.', '0'])
      (digitsValue digits * 10 ^ zeros) := by
  have hplain := IsDecimal.plain (by simp [hne]) (hdigits.append (.zeros zeros)) (.zeros 1)
    (by simp)
  refine hplain.of_eq ?_
  rw [digitsValue_append_zeros, digitsValue_append_zeros, List.length_replicate, zpow_neg]
  push_cast
  field_simp

/-- Digits on both sides of a point. -/
theorem IsDecimal.mixed {front : Nat} (hfront : front ≠ 0) (hlong : front < digits.length) :
    IsDecimal (digits.take front ++ '.' :: digits.drop front)
      (digitsValue digits * 10 ^ ((front : Int) - digits.length)) := by
  have hplain : IsDecimal (digits.take front ++ '.' :: digits.drop front) _ := .plain
    (by simp [hne, hfront]) (fun c hc => hdigits c (List.mem_of_mem_take hc))
    (fun c hc => hdigits c (List.mem_of_mem_drop hc)) (by simpa using hlong)
  refine hplain.of_eq ?_
  rw [List.take_append_drop, List.length_drop]
  congr 2
  omega

/-- Digits are laid out as a decimal of which the first digit has the exponent given. -/
theorem isDecimal_layOut (lead : Int) :
    IsDecimal (layOut digits lead) (digitsValue digits * 10 ^ (lead + 1 - digits.length)) := by
  unfold layOut
  split
  next hexponential =>
    obtain ⟨first, rest, rfl⟩ := List.exists_cons_of_ne_nil hne
    dsimp only
    generalize hpadded : (if (digitsOf lead.natAbs).length < 2 then '0' :: digitsOf lead.natAbs
      else digitsOf lead.natAbs) = padded
    have hsize : AllDigits padded ∧ digitsValue padded = lead.natAbs := by
      subst hpadded
      split
      next => exact ⟨(AllDigits.zeros 1).append (.digitsOf _), by simp⟩
      next => exact ⟨.digitsOf _, by simp⟩
    have hform := IsDecimal.scientific hdigits hsize.1 hsize.2
    cases rest <;> exact hform
  next hpositional =>
    have hlead : leastPositional ≤ lead ∧ lead < firstExponential := by
      omega
    split
    next hneg =>
      refine (IsDecimal.belowOne hdigits hne ((-lead).toNat - 1)).of_eq ?_
      congr 2
      omega
    next hnonneg =>
      obtain ⟨n, rfl⟩ := Int.eq_ofNat_of_zero_le (Int.not_lt.mp hnonneg)
      rw [Int.toNat_natCast]
      dsimp only
      split
      next hempty =>
        -- All digits stand in front of the point.
        have hshort : digits.length ≤ n + 1 := by
          simpa using hempty
        rw [List.take_of_length_le hshort]
        refine (IsDecimal.integral hdigits hne _).of_eq ?_
        rw [← zpow_natCast, Nat.cast_sub hshort]
        push_cast
        rfl
      next hsome =>
        have hlong : n + 1 < digits.length := by
          simpa using hsome
        have hnone : n + 1 - digits.length = 0 := by
          omega
        rw [hnone, List.replicate_zero, List.append_nil]
        refine (IsDecimal.mixed hdigits hne n.succ_ne_zero hlong).of_eq ?_
        push_cast
        rfl

end

theorem IsDecimal.first (h : IsDecimal text value) :
    ∃ c rest, text = c :: rest ∧ c.isDigit = true := by
  obtain ⟨whole, fraction, exponent, rfl, hne, hwhole, -⟩ := h
  obtain ⟨c, rest, rfl⟩ := List.exists_cons_of_ne_nil hne
  exact ⟨c, _, rfl, hwhole c (.head _)⟩

/-- Nothing but digits, a point, a letter and signs stands in a decimal. -/
theorem IsDecimal.mem (h : IsDecimal text value) {c : Char} (hc : c ∈ text) :
    c.isDigit = true ∨ c ∈ ['.', 'e', '-', '+'] := by
  obtain ⟨whole, fraction, exponent, rfl, -, hwhole, hfraction, hexponent, -⟩ := h
  rcases List.mem_append.mp hc with hc | hc
  · rcases List.mem_append.mp hc with hc | hc
    · exact .inl (hwhole c hc)
    · rcases mem_afterPoint hc with rfl | hc
      · exact .inr (.head _)
      · exact .inl (hfraction c hc)
  · rcases hexponent with ⟨rfl, -⟩ | ⟨sign, size, rfl, hsign, hsize⟩
    · cases hc
    · rcases List.mem_cons.mp hc with rfl | hc
      · exact .inr (by decide)
      · rcases List.mem_cons.mp hc with rfl | hc
        · rcases hsign with rfl | rfl <;> exact .inr (by decide)
        · exact .inl (hsize c hc)

/-- A point or a letter tells a decimal from an integer. -/
theorem IsDecimal.mark (h : IsDecimal text value) : '.' ∈ text ∨ 'e' ∈ text := by
  obtain ⟨whole, fraction, exponent, rfl, -, -, -, hexponent, -⟩ := h
  rcases hexponent with ⟨rfl, hsome⟩ | ⟨sign, size, rfl, -⟩
  · left
    rw [afterPoint, if_neg (by simpa using hsome)]
    simp
  · right
    simp

end

/-! ## The texts of doubles -/

/-- A double as there are: its quanta fit into the bits that it has. -/
def IsProper : Double → Prop
  | finite _ quanta => IsQuanta quanta
  | _ => True

/-- The text of a finite double without its sign. -/
def magnitude (quanta : Nat) : List Char :=
  if quanta = 0 then ['0', '.', '0']
  else
    layOut (stripZeros (digitsOf (shortest quanta).1)).1
      ((shortest quanta).2 + (digitsOf (shortest quanta).1).length - 1)

theorem text_finite (negative : Bool) (quanta : Nat) : text (finite negative quanta) =
    String.ofList (if negative then '-' :: magnitude quanta else magnitude quanta) := by
  rw [text, magnitude]

section

variable {q q' : Nat} {x y : Double}

/-- What is written without the sign is a decimal that reads back. -/
theorem isDecimal_magnitude (q : Nat) : ∃ value, IsDecimal (magnitude q) value ∧
    (q = 0 → value = 0) ∧ (q ≠ 0 → Near q (value * one)) := by
  by_cases hzero : q = 0
  · have hplain : IsDecimal (['0'] ++ '.' :: ['0']) _ :=
      .plain (by simp) (AllDigits.zeros 1) (AllDigits.zeros 1) (by simp)
    refine ⟨0, ?_, fun _ => rfl, fun hpos => absurd hzero hpos⟩
    rw [magnitude, if_pos hzero]
    refine hplain.of_eq ?_
    have hnone : digitsValue (['0'] ++ ['0']) = 0 := digitsValue_zeros 2
    rw [hnone, Nat.cast_zero, zero_mul]
  · have hnear := near_shortest hzero
    have hsome := shortest_ne_zero hzero
    rw [magnitude, if_neg hzero]
    generalize shortest q = found at *
    obtain ⟨n, exponent⟩ := found
    dsimp only at hnear hsome ⊢
    have hdecimal := isDecimal_layOut (allDigits_stripZeros (.digitsOf n)) (stripZeros_ne_nil hsome)
      (exponent + (digitsOf n).length - 1)
    refine ⟨_, hdecimal, fun h => absurd h hzero, fun _ => ?_⟩
    -- The zeros that were taken off make up for the exponent.
    have hstripped := stripZeros_append (digitsOf n)
    have hlength := congrArg List.length hstripped
    have hvalue := congrArg digitsValue hstripped
    rw [List.length_append, List.length_replicate] at hlength
    rw [digitsValue_append_zeros, digitsValue_digitsOf] at hvalue
    have hexponent : exponent + (digitsOf n).length - 1 + 1 - (stripZeros (digitsOf n)).1.length =
        exponent + (stripZeros (digitsOf n)).2 := by
      omega
    have hworth : (digitsValue (stripZeros (digitsOf n)).1 : ℚ) *
        10 ^ (exponent + (stripZeros (digitsOf n)).2 : ℤ) * one = worth n exponent := by
      rw [worth, zpow_add₀ (by norm_num), zpow_natCast]
      conv_rhs => rw [← hvalue]
      push_cast
      ring
    rw [hexponent, hworth]
    exact hnear

theorem magnitude_injective (hq : IsQuanta q) (hq' : IsQuanta q')
    (h : magnitude q = magnitude q') : q = q' := by
  -- One text writes one number, and only one double is what that number reads back as.
  obtain ⟨value, hvalue, hzero, hnear⟩ := isDecimal_magnitude q
  obtain ⟨value', hvalue', hzero', hnear'⟩ := isDecimal_magnitude q'
  have hsame : value = value' := by
    rw [← hvalue.written_eq, ← hvalue'.written_eq, h]
  subst hsame
  by_cases hpos : q = 0
  · by_contra hne
    have hpos' : q' ≠ 0 := fun heq => hne (hpos.trans heq.symm)
    have hgreater := (hnear' hpos').pos hpos'
    rw [hzero hpos, zero_mul] at hgreater
    exact lt_irrefl 0 hgreater
  · by_cases hpos' : q' = 0
    · have hgreater := (hnear hpos).pos hpos
      rw [hzero' hpos', zero_mul] at hgreater
      exact absurd hgreater (lt_irrefl 0)
    · exact near_unique hq hq' hpos hpos' (hnear hpos) (hnear' hpos')

theorem magnitude_first (q : Nat) : ∃ c rest, magnitude q = c :: rest ∧ c.isDigit = true := by
  obtain ⟨value, hvalue, -⟩ := isDecimal_magnitude q
  exact hvalue.first

/-- Whether the text of a double begins with a minus. -/
def isNegative : Double → Bool
  | nan => false
  | infinite negative => negative
  | finite negative _ => negative

/-- The text of a double without its sign. -/
def unsigned : Double → List Char
  | nan => ['n', 'a', 'n']
  | infinite _ => ['i', 'n', 'f']
  | finite _ quanta => magnitude quanta

/-- The characters beside digits that doubles are written in. -/
def marks : List Char :=
  ['.', 'e', '-', '+', 'n', 'a', 'i', 'f']

theorem text_toList (x : Double) :
    x.text.toList = (if x.isNegative then ['-'] else []) ++ x.unsigned := by
  cases x with
  | nan => rfl
  | infinite negative => cases negative <;> rfl
  | finite negative q =>
      rw [text_finite, String.toList_ofList]
      cases negative <;> rfl

theorem unsigned_first (x : Double) : ∃ c rest, x.unsigned = c :: rest ∧
    (c.isDigit = true ∨ c = 'i' ∨ c = 'n') := by
  cases x with
  | nan => exact ⟨_, _, rfl, .inr (.inr rfl)⟩
  | infinite negative => exact ⟨_, _, rfl, .inr (.inl rfl)⟩
  | finite negative q =>
      obtain ⟨c, rest, hrest, hc⟩ := magnitude_first q
      exact ⟨c, rest, hrest, .inl hc⟩

/-- No text of a double has a comma or a bracket in it. -/
theorem mem_text {c : Char} (hc : c ∈ x.text.toList) : c.isDigit = true ∨ c ∈ marks := by
  rw [text_toList] at hc
  rcases List.mem_append.mp hc with hc | hc
  · refine .inr ?_
    split at hc
    next =>
      obtain rfl := List.mem_singleton.mp hc
      decide
    next => cases hc
  · cases x with
    | nan =>
        have hc : c ∈ ['n', 'a', 'n'] := hc
        exact .inr ((by decide : ['n', 'a', 'n'] ⊆ marks) hc)
    | infinite negative =>
        have hc : c ∈ ['i', 'n', 'f'] := hc
        exact .inr ((by decide : ['i', 'n', 'f'] ⊆ marks) hc)
    | finite negative q =>
        obtain ⟨value, hvalue, -⟩ := isDecimal_magnitude q
        rcases hvalue.mem hc with hdigit | hmark
        · exact .inl hdigit
        · exact .inr (List.mem_append_left ['n', 'a', 'i', 'f'] hmark)

/-- In every text of a double there is something that stands in none of an integer. -/
theorem exists_mark (x : Double) :
    ∃ c ∈ x.text.toList, c.isDigit = false ∧ c ≠ '-' := by
  rw [text_toList]
  cases x with
  | nan => exact ⟨'n', by simp [unsigned], by decide⟩
  | infinite negative => exact ⟨'i', by simp [unsigned], by decide⟩
  | finite negative q =>
      obtain ⟨value, hvalue, -⟩ := isDecimal_magnitude q
      rcases hvalue.mark with hmark | hmark
      · exact ⟨'.', List.mem_append_right _ hmark, by decide⟩
      · exact ⟨'e', List.mem_append_right _ hmark, by decide⟩

theorem unsigned_injective (hx : x.IsProper) (hy : y.IsProper) (h : x.unsigned = y.unsigned)
    (hsign : x.isNegative = y.isNegative) : x = y := by
  have hnever {negative : Bool} {q : Nat} {c : Char} {rest : List Char}
      (h : unsigned (finite negative q) = c :: rest) (hc : c.isDigit = false) : False := by
    obtain ⟨d, others, hfirst, hd⟩ := magnitude_first q
    have hsame : d = c := (List.cons.inj (hfirst.symm.trans h)).1
    rw [hsame, hc] at hd
    cases hd
  cases x with
  | nan =>
      cases y with
      | nan => rfl
      | infinite negative => cases h
      | finite negative q => exact (hnever h.symm rfl).elim
  | infinite negative =>
      cases y with
      | nan => cases h
      | infinite negative' => exact congrArg infinite hsign
      | finite negative' q => exact (hnever h.symm rfl).elim
  | finite negative q =>
      cases y with
      | nan => exact (hnever h rfl).elim
      | infinite negative' => exact (hnever h rfl).elim
      | finite negative' q' =>
          obtain rfl := magnitude_injective hx hy h
          exact congrArg (finite · q) hsign

/-- A minus in front can be told from what it stands in front of. -/
theorem minus_injective {negative negative' : Bool} {digits digits' : List Char}
    (hdigits : digits.head? ≠ some '-') (hdigits' : digits'.head? ≠ some '-')
    (h : (if negative then ['-'] else []) ++ digits =
      (if negative' then ['-'] else []) ++ digits') :
    negative = negative' ∧ digits = digits' := by
  cases negative <;> cases negative'
  · exact ⟨rfl, h⟩
  · exact absurd (congrArg List.head? h) hdigits
  · exact absurd (congrArg List.head? h).symm hdigits'
  · exact ⟨rfl, (List.cons.inj h).2⟩

/-- No two doubles have one text. -/
theorem text_injective (hx : x.IsProper) (hy : y.IsProper) (h : x.text = y.text) : x = y := by
  have hlist := congrArg String.toList h
  rw [text_toList, text_toList] at hlist
  have hfirst (z : Double) : z.unsigned.head? ≠ some '-' := by
    obtain ⟨c, rest, hc, hfirst⟩ := z.unsigned_first
    rintro hminus
    rw [hc, List.head?_cons] at hminus
    rw [Option.some.inj hminus] at hfirst
    revert hfirst
    decide
  obtain ⟨hsign, hunsigned⟩ := minus_injective (hfirst x) (hfirst y) hlist
  exact unsigned_injective hx hy hunsigned hsign

end

end Double

end Docbase
