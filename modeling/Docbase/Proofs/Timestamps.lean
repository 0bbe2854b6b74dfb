import Docbase.Proofs.Calendar
import Docbase.Proofs.Coherence
import Docbase.Proofs.Comparison
import Docbase.Proofs.DecimalTexts

/-! # Timestamps in order

The text of an instant has every part of date and time in a fixed width, the greatest first. Texts
of a later millisecond therefore come later as texts, and so they do by the comparisons of filters
and of sorting.
-/

namespace Docbase

open Double (digitsValue)

/-! ## Numbers of a fixed width -/

section Digits

variable {digits digits' rest rest' : List Char}

theorem append_lt_append_iff (hlength : digits.length = digits'.length) :
    digits ++ rest < digits' ++ rest' ↔ digits < digits' ∨ digits = digits' ∧ rest < rest' := by
  induction digits generalizing digits' with
  | nil =>
      obtain rfl := List.length_eq_zero_iff.1 hlength.symm
      simp
  | cons c digits ih =>
      obtain ⟨c', digits', rfl⟩ := List.exists_cons_of_length_eq_add_one hlength.symm
      rw [List.cons_append, List.cons_append, List.cons_lt_cons_iff, List.cons_lt_cons_iff,
        ih (Nat.succ.inj hlength), List.cons.injEq]
      tauto

theorem digitsValue_cons (c : Char) (digits : List Char) : digitsValue (c :: digits) =
    10 ^ digits.length * (c.toNat - '0'.toNat) + digitsValue digits := by
  rw [← List.singleton_append, Double.digitsValue_append]
  simp [digitsValue, Nat.ofDigitChars_cons]

theorem toNat_of_isDigit {c : Char} (h : c.isDigit = true) : 48 ≤ c.toNat ∧ c.toNat ≤ 57 := by
  simpa [Char.isDigit, UInt32.le_iff_toNat_le] using h

theorem digitsValue_lt_pow (h : AllDigits digits) : digitsValue digits < 10 ^ digits.length := by
  induction digits with
  | nil => exact Nat.one_pos
  | cons c digits ih =>
      have hc := toNat_of_isDigit (h c List.mem_cons_self)
      have hrest := ih fun d hd => h d (List.mem_cons_of_mem c hd)
      have hfirst : c.toNat - '0'.toNat ≤ 9 := by
        change c.toNat - 48 ≤ 9
        omega
      calc digitsValue (c :: digits)
          = 10 ^ digits.length * (c.toNat - '0'.toNat) + digitsValue digits := digitsValue_cons _ _
        _ < 10 ^ digits.length * 9 + 10 ^ digits.length :=
            Nat.add_lt_add_of_le_of_lt (Nat.mul_le_mul_left _ hfirst) hrest
        _ = 10 ^ (c :: digits).length := by rw [List.length_cons, Nat.pow_succ]; omega

/-- Of as many digits, those that come first as a text write the smaller number. -/
theorem digitsValue_lt (h : AllDigits digits) (h' : AllDigits digits')
    (hlength : digits.length = digits'.length) (hlt : digits < digits') :
    digitsValue digits < digitsValue digits' := by
  induction digits generalizing digits' with
  | nil =>
      obtain rfl := List.length_eq_zero_iff.1 hlength.symm
      exact absurd hlt (List.lt_irrefl [])
  | cons c digits ih =>
      obtain ⟨c', digits', rfl⟩ := List.exists_cons_of_length_eq_add_one hlength.symm
      have hrest : AllDigits digits := fun d hd => h d (List.mem_cons_of_mem c hd)
      have hrest' : AllDigits digits' := fun d hd => h' d (List.mem_cons_of_mem c' hd)
      have hlength' : digits.length = digits'.length := Nat.succ.inj hlength
      rw [digitsValue_cons, digitsValue_cons, ← hlength']
      obtain hfirst | ⟨rfl, hless⟩ := List.cons_lt_cons_iff.1 hlt
      · have hc := toNat_of_isDigit (h c List.mem_cons_self)
        have hc' := toNat_of_isDigit (h' c' List.mem_cons_self)
        have hnat : c.toNat < c'.toNat := hfirst
        have hsucc : c.toNat - '0'.toNat + 1 ≤ c'.toNat - '0'.toNat := by
          change c.toNat - 48 + 1 ≤ c'.toNat - 48
          omega
        calc 10 ^ digits.length * (c.toNat - '0'.toNat) + digitsValue digits
            < 10 ^ digits.length * (c.toNat - '0'.toNat) + 10 ^ digits.length :=
              Nat.add_lt_add_left (digitsValue_lt_pow hrest) _
          _ = 10 ^ digits.length * (c.toNat - '0'.toNat + 1) := (Nat.mul_succ _ _).symm
          _ ≤ 10 ^ digits.length * (c'.toNat - '0'.toNat) := Nat.mul_le_mul_left _ hsucc
          _ ≤ 10 ^ digits.length * (c'.toNat - '0'.toNat) + digitsValue digits' :=
              Nat.le_add_right _ _
      · exact Nat.add_lt_add_left (ih hrest hrest' hlength' hless) _

end Digits

namespace Clock

section Padded

variable {width m n : Nat}

theorem length_padded (hwidth : 0 < width) (hn : n < 10 ^ width) :
    (padded width n).length = width := by
  have hlength := (Nat.length_toDigits_le_iff (by decide) hwidth).2 hn
  rw [padded, List.length_append, List.length_replicate]
  omega

theorem allDigits_padded (width n : Nat) : AllDigits (padded width n) :=
  (AllDigits.zeros _).append (AllDigits.digitsOf n)

theorem digitsValue_padded (width n : Nat) : digitsValue (padded width n) = n :=
  (Double.digitsValue_zeros_append _ _).trans (Double.digitsValue_digitsOf n)

theorem padded_lt (hwidth : 0 < width) (hm : m < 10 ^ width) (hn : n < 10 ^ width)
    (h : padded width m < padded width n) : m < n := by
  have hvalue := digitsValue_lt (allDigits_padded width m) (allDigits_padded width n)
    ((length_padded hwidth hm).trans (length_padded hwidth hn).symm) h
  rwa [digitsValue_padded, digitsValue_padded] at hvalue

theorem padded_lt_iff (hwidth : 0 < width) (hm : m < 10 ^ width) (hn : n < 10 ^ width) :
    padded width m < padded width n ↔ m < n := by
  refine ⟨padded_lt hwidth hm hn, fun h => ?_⟩
  obtain hlt | heq | hgt := Std.lt_trichotomy (padded width m) (padded width n)
  · exact hlt
  · have hvalue := congrArg digitsValue heq
    rw [digitsValue_padded, digitsValue_padded] at hvalue
    exact absurd hvalue h.ne
  · exact absurd (padded_lt hwidth hn hm hgt) h.asymm

theorem padded_inj : padded width m = padded width n ↔ m = n := by
  refine ⟨fun h => ?_, fun h => h ▸ rfl⟩
  rw [← digitsValue_padded width m, h, digitsValue_padded]

/-- The first part that differs decides. -/
theorem padded_append_lt_iff {mark : Char} {rest rest' : List Char} (hwidth : 0 < width)
    (hm : m < 10 ^ width) (hn : n < 10 ^ width) :
    padded width m ++ mark :: rest < padded width n ++ mark :: rest' ↔
      m < n ∨ m = n ∧ rest < rest' := by
  rw [append_lt_append_iff ((length_padded hwidth hm).trans (length_padded hwidth hn).symm),
    padded_lt_iff hwidth hm hn, padded_inj, List.cons_lt_cons_iff]
  simp

end Padded

/-! ## Texts of instants -/

/-- An instant lies in the years 1 to 9999. -/
def InRange (instant : Instant) : Prop :=
  1 ≤ (dateOfDay (instant.fdiv dayLength)).year ∧ (dateOfDay (instant.fdiv dayLength)).year ≤ 9999

instance (instant : Instant) : Decidable (InRange instant) :=
  inferInstanceAs (Decidable (_ ∧ _))

/-- The milliseconds of the day of an instant. -/
def millis (instant : Instant) : Nat :=
  (instant.fmod dayLength).toNat / 1000

theorem text_toList (instant : Instant) : (text instant).toList =
    padded 4 (dateOfDay (instant.fdiv dayLength)).year.toNat ++ '-' ::
      (padded 2 (dateOfDay (instant.fdiv dayLength)).month ++ '-' ::
        (padded 2 (dateOfDay (instant.fdiv dayLength)).day ++ 'T' ::
          (padded 2 (millis instant / 3600000) ++ ':' ::
            (padded 2 (millis instant / 60000 % 60) ++ ':' ::
              (padded 2 (millis instant / 1000 % 60) ++ '.' ::
                (padded 3 (millis instant % 1000) ++ 'Z' :: [])))))) := by
  have hhour : (instant.fmod dayLength).toNat / 1000000 / 3600 = millis instant / 3600000 := by
    unfold millis
    omega
  have hminute : (instant.fmod dayLength).toNat / 1000000 / 60 % 60 =
      millis instant / 60000 % 60 := by
    unfold millis
    omega
  have hsecond : (instant.fmod dayLength).toNat / 1000000 % 60 = millis instant / 1000 % 60 := by
    unfold millis
    omega
  simp only [text, timeOfDay, String.toList_ofList, List.append_assoc, List.cons_append, hhour,
    hminute, hsecond]
  rfl

example : text 951782399999000 = "2000-02-28T23:59:59.999Z" := by decide

theorem dayLength_parts (instant : Instant) : 0 ≤ instant.fmod dayLength ∧
    instant.fmod dayLength < dayLength ∧
    dayLength * instant.fdiv dayLength + instant.fmod dayLength = instant :=
  ⟨Int.fmod_nonneg_of_pos instant (by decide), Int.fmod_lt_of_pos instant (by decide),
    Int.mul_fdiv_add_fmod instant dayLength⟩

theorem millis_lt (instant : Instant) : millis instant < 86400000 := by
  obtain ⟨hnonneg, hlt, -⟩ := dayLength_parts instant
  unfold millis
  unfold dayLength at *
  omega

theorem Date.lt_iff {date other : Date} {later : Prop} (hyear : 1 ≤ date.year)
    (hyear' : 1 ≤ other.year) :
    (date.year.toNat < other.year.toNat ∨ date.year.toNat = other.year.toNat ∧
      (date.month < other.month ∨ date.month = other.month ∧
        (date.day < other.day ∨ date.day = other.day ∧ later))) ↔
      date.Before other ∨ date = other ∧ later := by
  have heq : date = other ↔
      date.year = other.year ∧ date.month = other.month ∧ date.day = other.day := by
    cases date
    cases other
    exact Date.mk.injEq .. ▸ Iff.rfl
  rw [heq, Before]
  by_cases hlater : later
  · simp only [hlater, and_true]
    omega
  · simp only [hlater, and_false, or_false]
    omega

/-- The quotient decides, and then the remainder. -/
theorem div_lt_iff {m n : Nat} (k : Nat) {later : Prop} :
    (m / k < n / k ∨ m / k = n / k ∧ (m % k < n % k ∨ m % k = n % k ∧ later)) ↔
      m < n ∨ m = n ∧ later := by
  have hm := Nat.div_add_mod m k
  have hn := Nat.div_add_mod n k
  constructor
  · rintro (hquotient | ⟨hquotient, hremainder | ⟨hremainder, hlater⟩⟩)
    · exact .inl (Nat.lt_of_div_lt_div hquotient)
    · rw [hquotient] at hm
      omega
    · exact .inr ⟨by rw [← hm, ← hn, hquotient, hremainder], hlater⟩
  · rintro (hlt | ⟨rfl, hlater⟩)
    · obtain hquotient | hquotient := (Nat.div_le_div_right hlt.le : m / k ≤ n / k).lt_or_eq
      · exact .inl hquotient
      · refine .inr ⟨hquotient, .inl ?_⟩
        rw [hquotient] at hm
        omega
    · exact .inr ⟨rfl, .inr ⟨rfl, hlater⟩⟩

theorem time_lt_iff {m n : Nat} {later : Prop} :
    (m / 3600000 < n / 3600000 ∨ m / 3600000 = n / 3600000 ∧
      (m / 60000 % 60 < n / 60000 % 60 ∨ m / 60000 % 60 = n / 60000 % 60 ∧
        (m / 1000 % 60 < n / 1000 % 60 ∨ m / 1000 % 60 = n / 1000 % 60 ∧
          (m % 1000 < n % 1000 ∨ m % 1000 = n % 1000 ∧ later)))) ↔ m < n ∨ m = n ∧ later := by
  have hminutes (t : Nat) : t / 60000 = t / 1000 / 60 := by rw [Nat.div_div_eq_div_mul]
  have hhours (t : Nat) : t / 3600000 = t / 1000 / 60 / 60 := by
    rw [Nat.div_div_eq_div_mul, Nat.div_div_eq_div_mul]
  rw [hminutes m, hminutes n, hhours m, hhours n, div_lt_iff 60, div_lt_iff 60, div_lt_iff 1000]

/-- All parts of the text of an instant have a place in their width. -/
theorem InRange.fits {a : Instant} (h : InRange a) :
    ((dateOfDay (a.fdiv dayLength)).year.toNat < 10 ^ 4 ∧
      (dateOfDay (a.fdiv dayLength)).month < 10 ^ 2 ∧
      (dateOfDay (a.fdiv dayLength)).day < 10 ^ 2) ∧
    millis a / 3600000 < 10 ^ 2 ∧ millis a / 60000 % 60 < 10 ^ 2 ∧
      millis a / 1000 % 60 < 10 ^ 2 ∧ millis a % 1000 < 10 ^ 3 := by
  obtain ⟨-, hmonth, -, hday⟩ := dateOfDay_valid (a.fdiv dayLength)
  have hlength := monthLength_le (dateOfDay (a.fdiv dayLength)).year
    (dateOfDay (a.fdiv dayLength)).month
  have hmillis := millis_lt a
  have hyear := h.2
  omega

theorem text_lt_iff_parts {a b : Instant} (ha : InRange a) (hb : InRange b) :
    text a < text b ↔ a.fdiv dayLength < b.fdiv dayLength ∨
      a.fdiv dayLength = b.fdiv dayLength ∧ millis a < millis b := by
  obtain ⟨⟨hyear, hmonth, hday⟩, hhour, hminute, hsecond, hmilli⟩ := ha.fits
  obtain ⟨⟨hyear', hmonth', hday'⟩, hhour', hminute', hsecond', hmilli'⟩ := hb.fits
  have hnil : ¬ ([] : List Char) < [] := List.lt_irrefl []
  change (text a).toList < (text b).toList ↔ _
  rw [text_toList, text_toList, padded_append_lt_iff (by decide) hyear hyear',
    padded_append_lt_iff (by decide) hmonth hmonth', padded_append_lt_iff (by decide) hday hday',
    padded_append_lt_iff (by decide) hhour hhour',
    padded_append_lt_iff (by decide) hminute hminute',
    padded_append_lt_iff (by decide) hsecond hsecond',
    padded_append_lt_iff (by decide) hmilli hmilli', Date.lt_iff ha.1 hb.1, time_lt_iff,
    dateOfDay_before_iff, dateOfDay_injective.eq_iff]
  simp only [hnil, and_false, or_false]

/-- Of two instants in the calendar the one in the earlier millisecond has the text that comes
first. -/
theorem text_lt_iff {a b : Instant} (ha : InRange a) (hb : InRange b) :
    text a < text b ↔ a.fdiv 1000 < b.fdiv 1000 := by
  obtain ⟨hnonneg, hlt, hparts⟩ := dayLength_parts a
  obtain ⟨hnonneg', hlt', hparts'⟩ := dayLength_parts b
  rw [text_lt_iff_parts ha hb, Int.fdiv_eq_ediv_of_nonneg a (by decide : (0 : Int) ≤ 1000),
    Int.fdiv_eq_ediv_of_nonneg b (by decide : (0 : Int) ≤ 1000)]
  unfold millis
  unfold dayLength at *
  omega

theorem text_ne_of_lt {a b : Instant} (ha : InRange a) (hb : InRange b)
    (h : a.fdiv 1000 < b.fdiv 1000) : text a ≠ text b := by
  intro heq
  have hlt := (text_lt_iff ha hb).2 h
  rw [heq] at hlt
  exact String.lt_irrefl _ hlt

theorem text_eq_iff {a b : Instant} (ha : InRange a) (hb : InRange b) :
    text a = text b ↔ a.fdiv 1000 = b.fdiv 1000 := by
  constructor
  · intro heq
    obtain hlt | hsame | hgt := lt_trichotomy (a.fdiv 1000) (b.fdiv 1000)
    · exact absurd heq (text_ne_of_lt ha hb hlt)
    · exact hsame
    · exact absurd heq.symm (text_ne_of_lt hb ha hgt)
  · intro heq
    obtain hsame | hlt | hgt := text_trichotomy (text a) (text b)
    · exact hsame
    · exact absurd heq ((text_lt_iff ha hb).1 hlt).ne
    · exact absurd heq ((text_lt_iff hb ha).1 hgt).ne'

/-! ## Timestamps in sorting and in filters -/

/-- The characters of the texts of instants. -/
def stampLetters : List Char :=
  "0123456789-:.TZ".toList

theorem mem_stampLetters {instant : Instant} {c : Char} (hc : c ∈ (text instant).toList) :
    c ∈ stampLetters := by
  have hdigit {d : Char} (h : d.isDigit = true) : d ∈ stampLetters :=
    Text.forall_ascii (fun d => d.isDigit = true → d ∈ stampLetters) (by decide)
      (by have := toNat_of_isDigit h; simp [Text.isAscii]; omega) h
  have hpadded {width n : Nat} (h : c ∈ padded width n) : c ∈ stampLetters :=
    hdigit (allDigits_padded width n c h)
  simp only [text_toList, List.mem_append, List.mem_cons, List.not_mem_nil, or_false] at hc
  rcases hc with h | rfl | h | rfl | h | rfl | h | rfl | h | rfl | h | rfl | h | rfl
  all_goals first | exact hpadded h | decide

/-- The characters keep their order when case is folded. -/
theorem toLower_lt_iff {c d : Char} (hc : c ∈ stampLetters) (hd : d ∈ stampLetters) :
    (c.toLower < d.toLower ↔ c < d) ∧ (c.toLower = d.toLower ↔ c = d) := by
  have hall : stampLetters.all (fun c => stampLetters.all fun d =>
      decide ((c.toLower < d.toLower ↔ c < d) ∧ (c.toLower = d.toLower ↔ c = d))) = true := by
    decide
  exact of_decide_eq_true (List.all_eq_true.1 (List.all_eq_true.1 hall c hc) d hd)

theorem map_toLower_lt_iff {word other : List Char} (hword : ∀ c ∈ word, c ∈ stampLetters)
    (hother : ∀ c ∈ other, c ∈ stampLetters) :
    word.map Char.toLower < other.map Char.toLower ↔ word < other := by
  induction word generalizing other with
  | nil => cases other <;> simp
  | cons c word ih =>
      cases other with
      | nil => simp
      | cons d other =>
          rw [List.forall_mem_cons] at hword hother
          obtain ⟨hless, hsame⟩ := toLower_lt_iff hword.1 hother.1
          rw [List.map_cons, List.map_cons, List.cons_lt_cons_iff, List.cons_lt_cons_iff, hless,
            hsame, ih hword.2 hother.2]

/-- The form by which an ASCII text is sorted is the text in small letters. -/
theorem toList_collationKey {s : String} (h : ∀ c ∈ s.toList, Text.isAscii c = true) :
    (collationKey s).toList = s.toList.map Char.toLower := by
  have hbase : s.toList.flatMap Text.baseChars = s.toList := by
    have hchars : ∀ c ∈ s.toList, Text.baseChars c = [c] := fun c hc => by
      rw [Text.baseChars, if_pos (h c hc)]
    rw [List.flatMap_congr hchars, List.flatMap_singleton']
  have hfold : s.toList.flatMap Text.foldChar = s.toList.map Char.toLower := by
    rw [List.flatMap_congr fun c hc => Text.foldChar_ascii (h c hc), List.map_eq_flatMap]
  rw [collationKey, Text.foldCase, Text.base, String.toList_ofList, String.toList_ofList, hbase,
    hfold]

theorem collationKey_lt_iff (a b : Instant) :
    collationKey (text a) < collationKey (text b) ↔ text a < text b := by
  have hascii (instant : Instant) : ∀ c ∈ (text instant).toList, Text.isAscii c = true := by
    have hletters : stampLetters.all Text.isAscii = true := rfl
    exact fun c hc => List.all_eq_true.1 hletters c (mem_stampLetters hc)
  change (collationKey (text a)).toList < (collationKey (text b)).toList ↔ _
  rw [toList_collationKey (hascii a), toList_collationKey (hascii b)]
  exact map_toLower_lt_iff (fun c => mem_stampLetters) (fun c => mem_stampLetters)

/-- Sorting compares the texts of instants as texts. -/
theorem collate_texts (a b : Instant) :
    Value.collate (text a) (text b) = Value.compareTexts (text a) (text b) := by
  have hkeys : Value.compareTexts (collationKey (text a)) (collationKey (text b)) =
      Value.compareTexts (text a) (text b) := by
    simp only [Value.compareTexts, collationKey_lt_iff]
  rw [Value.collate_eq_thenBy, thenBy, hkeys, ite_id]

theorem compareTexts_texts {a b : Instant} (ha : InRange a) (hb : InRange b) :
    Value.compareTexts (text a) (text b) = (a.fdiv 1000 - b.fdiv 1000).sign := by
  rw [Value.compareTexts]
  simp only [text_lt_iff ha hb, text_lt_iff hb ha]
  split
  next hlt => exact (Int.sign_eq_neg_one_of_neg (Int.sub_neg_of_lt hlt)).symm
  next hnot =>
    split
    next hgt => exact (Int.sign_eq_one_of_pos (Int.sub_pos_of_lt hgt)).symm
    next hnot' =>
      have heq : a.fdiv 1000 = b.fdiv 1000 := by omega
      rw [heq, Int.sub_self]
      rfl

theorem text_le {a b : Instant} (ha : InRange a) (hb : InRange b) (h : a ≤ b) :
    text a ≤ text b := by
  refine String.not_lt.1 fun hlt => ?_
  have hmillis := (text_lt_iff hb ha).1 hlt
  rw [Int.fdiv_eq_ediv_of_nonneg a (by decide : (0 : Int) ≤ 1000),
    Int.fdiv_eq_ediv_of_nonneg b (by decide : (0 : Int) ≤ 1000)] at hmillis
  exact absurd (Int.ediv_le_ediv (by decide) h) (Int.not_le.2 hmillis)

theorem below_texts_iff {s t : String} : Value.Below (.text s) (.text t) ↔ s < t := by
  rw [Value.text_below_iff]
  constructor
  · rintro ⟨_, heq, hlt⟩
    cases heq
    exact hlt
  · exact fun hlt => ⟨t, rfl, hlt⟩

/-- The texts of instants in the calendar are in the order of their milliseconds, as texts, for the
filters that ask which is less or greater, and where documents are sorted by them. -/
theorem text_order {a b : Instant} (ha : InRange a) (hb : InRange b) :
    (a ≤ b → text a ≤ text b) ∧ (text a = text b ↔ a.fdiv 1000 = b.fdiv 1000) ∧
    ∀ (doc other : Document) (field : String), Connective.ofKey? field = none →
      doc.get field = .text (text a) → other.get field = .text (text b) →
      (doc.Stands field "$lt" (.text (text b)) ↔ a.fdiv 1000 < b.fdiv 1000) ∧
      (doc.Stands field "$gt" (.text (text b)) ↔ b.fdiv 1000 < a.fdiv 1000) ∧
      ∀ descending, compareDocuments [⟨field, descending⟩] doc other =
        (a.fdiv 1000 - b.fdiv 1000).sign * if descending then -1 else 1 := by
  refine ⟨text_le ha hb, text_eq_iff ha hb, fun doc other field hfield hdoc hother => ?_⟩
  have hjson : (doc.get field).IsJson := hdoc ▸ .text _
  refine ⟨?_, ?_, fun descending => ?_⟩
  · rw [Document.stands_less_iff hfield hjson, hdoc, below_texts_iff, text_lt_iff ha hb]
  · rw [Document.stands_greater_iff hfield hjson (.text _), hdoc, below_texts_iff,
      text_lt_iff hb ha]
  · rw [compareDocuments_singleton]
    simp only [compareBy, hdoc, hother, Value.isNull, Bool.false_and, Bool.false_eq_true, if_false,
      Value.collateValues_texts, collate_texts, compareTexts_texts ha hb, SortField.direction]

/-- The last millisecond before a leap day and the first of it. -/
theorem text_order_leapDay :
    (InRange 951782399999000 ∧ InRange 951782400000000) ∧
    text 951782399999000 ≤ text 951782400000000 ∧ text 951782399999000 ≠ text 951782400000000 ∧
    Document.Stands [("at", .text (text 951782399999000))] "at" "$lt"
      (.text (text 951782400000000)) ∧
    compareDocuments [⟨"at", true⟩] [("at", .text (text 951782399999000))]
      [("at", .text (text 951782400000000))] = 1 := by
  have ha : InRange 951782399999000 := by decide
  have hb : InRange 951782400000000 := by decide
  obtain ⟨hle, heq, hdocs⟩ := text_order ha hb
  obtain ⟨hless, -, hcompare⟩ :=
    hdocs [("at", .text (text 951782399999000))] [("at", .text (text 951782400000000))] "at" rfl
      rfl rfl
  exact ⟨⟨ha, hb⟩, hle (by decide), fun h => absurd (heq.1 h) (by decide),
    hless.2 (by decide), hcompare true⟩

end Clock

end Docbase
