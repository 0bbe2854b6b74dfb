import Docbase.Proofs.Arrangement
import Docbase.Proofs.ValueOrder
import Docbase.Query.Sorting
import Mathlib.Data.Set.Basic

/-! # Values compared in circles

Comparing two values one way round is the opposite of comparing them the other way round. But the
comparison can go in circles: most values are compared by what they are, values without an order by
how they are written, and the two need not agree. A third value can cross two that have an order,
by standing between them the wrong way round in writing. Values are in one order exactly if none of
them cross.
-/

namespace Docbase

/-! ## Comparisons -/

/-- A comparison goes in no circles among items: what comes after something that comes after a
first comes after the first. -/
def Transits {α : Type} (cmp : α → α → Int) (items : Set α) : Prop :=
  ∀ a ∈ items, ∀ b ∈ items, ∀ c ∈ items, cmp a b ≤ 0 → cmp b c ≤ 0 → cmp a c ≤ 0

/-- A comparison is the opposite one when the items change sides. -/
def Opposes {α : Type} (cmp : α → α → Int) (items : Set α) : Prop :=
  ∀ a ∈ items, ∀ b ∈ items, cmp b a = -cmp a b

/-- Compares by a first comparison, and by a second one where the first finds no difference. -/
def thenBy {α : Type} (cmp cmp' : α → α → Int) (a b : α) : Int :=
  if cmp a b ≠ 0 then cmp a b else cmp' a b

section

variable {α β : Type} {cmp cmp' : α → α → Int} {items : Set α}

theorem Opposes.self (h : Opposes cmp items) {a : α} (ha : a ∈ items) : cmp a a = 0 := by
  have := h a ha a ha
  omega

theorem Opposes.thenBy (h : Opposes cmp items) (h' : Opposes cmp' items) :
    Opposes (thenBy cmp cmp') items := by
  intro a ha b hb
  have hab := h a ha b hb
  have hab' := h' a ha b hb
  unfold Docbase.thenBy
  split <;> split <;> omega

theorem Transits.thenBy (hopp : Opposes cmp items) (h : Transits cmp items)
    (h' : Transits cmp' items) : Transits (thenBy cmp cmp') items := by
  intro a ha b hb c hc hab hbc
  have hac := h a ha b hb c hc
  have hcab := h c hc a ha b hb
  have hbca := h b hb c hc a ha
  have hac' := h' a ha b hb c hc
  have hopab := hopp a ha b hb
  have hopbc := hopp b hb c hc
  have hopac := hopp a ha c hc
  unfold Docbase.thenBy at *
  split at hab <;> split at hbc <;> split <;> omega

theorem Opposes.comap {f : β → α} {others : Set β} (h : Opposes cmp items)
    (hf : ∀ b ∈ others, f b ∈ items) : Opposes (fun a b => cmp (f a) (f b)) others :=
  fun a ha b hb => h _ (hf a ha) _ (hf b hb)

theorem Transits.comap {f : β → α} {others : Set β} (h : Transits cmp items)
    (hf : ∀ b ∈ others, f b ∈ items) : Transits (fun a b => cmp (f a) (f b)) others :=
  fun a ha b hb c hc => h _ (hf a ha) _ (hf b hb) _ (hf c hc)

theorem transits_flip_iff : Transits (fun a b => cmp b a) items ↔ Transits cmp items :=
  ⟨fun h a ha b hb c hc hab hbc => h c hc b hb a ha hbc hab,
    fun h a ha b hb c hc hab hbc => h c hc b hb a ha hbc hab⟩

theorem transits_congr (h : ∀ a ∈ items, ∀ b ∈ items, cmp a b = cmp' a b) :
    Transits cmp items ↔ Transits cmp' items := by
  refine forall₂_congr fun a ha => forall₂_congr fun b hb => forall₂_congr fun c hc => ?_
  rw [h a ha b hb, h b hb c hc, h a ha c hc]

theorem transits_comap_iff {f : β → α} {others : List β} :
    Transits (fun a b => cmp (f a) (f b)) {b | b ∈ others} ↔
      Transits cmp {a | a ∈ others.map f} := by
  simp [Transits]

/-- A comparison that goes in no circles gives an order that does not contradict itself. -/
theorem Transits.weaklyOrders {docs : List α} (h : Transits cmp {doc | doc ∈ docs})
    (hopp : Opposes cmp {doc | doc ∈ docs}) :
    WeaklyOrders (fun a b => decide (cmp a b < 0)) docs where
  asymm a ha b hb hab := by
    have := hopp a ha b hb
    simp only [decide_eq_true_eq, decide_eq_false_iff_not] at hab ⊢
    omega
  trans a ha b hb c hc hba hcb := by
    have hac := h a ha b hb c hc
    have hopab := hopp a ha b hb
    have hopbc := hopp b hb c hc
    have hopac := hopp a ha c hc
    simp only [decide_eq_false_iff_not] at hba hcb ⊢
    omega

end

namespace Value

/-! ## Texts -/

theorem compareTexts_self (s : String) : compareTexts s s = 0 := by
  rw [compareTexts, if_neg (String.lt_irrefl s), if_neg (String.lt_irrefl s)]

theorem compareTexts_eq_zero_iff {s t : String} : compareTexts s t = 0 ↔ s = t := by
  constructor
  · intro h
    unfold compareTexts at h
    rcases text_trichotomy s t with heq | hlt | hlt
    · exact heq
    · simp [hlt] at h
    · simp [hlt, String.lt_asymm hlt] at h
  · rintro rfl
    exact compareTexts_self s

theorem compareTexts_neg_iff {s t : String} : compareTexts s t < 0 ↔ s < t := by
  unfold compareTexts
  split
  next hlt => simp [hlt]
  next hnot => split <;> simp [hnot]

theorem opposes_compareTexts : Opposes compareTexts Set.univ := by
  intro s _ t _
  rcases text_trichotomy s t with rfl | hlt | hlt
  · rw [compareTexts_self]
    rfl
  · simp [compareTexts, hlt, String.lt_asymm hlt]
  · simp [compareTexts, hlt, String.lt_asymm hlt]

theorem compareTexts_nonpos_iff {s t : String} : compareTexts s t ≤ 0 ↔ s ≤ t := by
  have hopposite := opposes_compareTexts s trivial t trivial
  rw [← String.not_lt, ← compareTexts_neg_iff]
  omega

theorem transits_compareTexts : Transits compareTexts Set.univ := by
  intro s _ t _ u _
  simp only [compareTexts_nonpos_iff]
  exact String.le_trans

theorem compareTexts_of_ne {s t : String} (h : s ≠ t) :
    compareTexts s t = if s < t then -1 else 1 := by
  have hts (hst : ¬s < t) : t < s := ((text_trichotomy s t).resolve_left h).resolve_left hst
  unfold compareTexts
  split
  next => rfl
  next hst => exact if_pos (hts hst)

theorem collate_eq_thenBy :
    collate = thenBy (fun s t => compareTexts (collationKey s) (collationKey t)) compareTexts := by
  funext s t
  simp only [thenBy, collate, ne_eq, compareTexts_eq_zero_iff]
  split
  next heq => rw [heq, if_neg (not_not.mpr rfl), compareTexts_self]
  next hne =>
    split
    next hkeys => rw [compareTexts_of_ne hkeys]
    next => rw [compareTexts_of_ne hne]

theorem opposes_collate : Opposes collate Set.univ := by
  rw [collate_eq_thenBy]
  exact (opposes_compareTexts.comap fun _ _ => trivial).thenBy opposes_compareTexts

theorem transits_collate : Transits collate Set.univ := by
  rw [collate_eq_thenBy]
  exact .thenBy (opposes_compareTexts.comap fun _ _ => trivial)
    (transits_compareTexts.comap fun _ _ => trivial) transits_compareTexts

theorem collate_eq_zero_iff {s t : String} : collate s t = 0 ↔ s = t := by
  unfold collate
  split
  next heq => simp [heq]
  next hne => split <;> split <;> simp [hne]

theorem collate_neg_iff {s t : String} : collate s t < 0 ↔ collate s t = -1 := by
  unfold collate
  split
  next => simp
  next => split <;> split <;> simp

/-! ## What is written -/

/-- Whether two values are neither equal nor in an order. -/
def isUnordered (a b : Value) : Bool :=
  !eq a b && (compare? .less a b).isNone

/-- Compares values by the names of their types, and by how they are written when these agree. -/
def compareWritten : Value → Value → Int :=
  thenBy (fun a b => compareTexts a.typeName b.typeName)
    (fun a b => compareTexts a.shown b.shown)

theorem opposes_compareWritten : Opposes compareWritten Set.univ :=
  (opposes_compareTexts.comap fun _ _ => trivial).thenBy
    (opposes_compareTexts.comap fun _ _ => trivial)

theorem transits_compareWritten : Transits compareWritten Set.univ :=
  .thenBy (opposes_compareTexts.comap fun _ _ => trivial)
    (transits_compareTexts.comap fun _ _ => trivial)
    (transits_compareTexts.comap fun _ _ => trivial)

/-- One value comes before another one by what they are: texts by their form for sorting, other
values by their order. -/
def Leads : Value → Value → Prop
  | text s, b => ∃ t, b = text t ∧ collate s t < 0
  | a, b => Below a b

section

variable {a b c : Value}

theorem leads_iff_below (ha : ∀ s, a ≠ text s) : Leads a b ↔ Below a b := by
  cases a with
  | text s => exact absurd rfl (ha s)
  | _ => rfl

theorem ne_text_of_below (h : Below a b) (ha : ∀ s, a ≠ text s) (t : String) : b ≠ text t := by
  rintro rfl
  cases a with
  | text s => exact ha s rfl
  | _ => cases h

theorem leads_of_below (h : Below a b) (hnot : ∀ s t, a = text s → b ≠ text t) : Leads a b := by
  refine (leads_iff_below ?_).mpr h
  rintro s rfl
  obtain ⟨t, rfl, -⟩ := text_below_iff.mp h
  exact hnot s t rfl rfl

theorem collateValues_of_eq (h : eq a b = true) : collateValues a b = 0 := by
  unfold collateValues
  exact if_pos h

theorem collateValues_texts (s t : String) : collateValues (text s) (text t) = collate s t := by
  unfold collateValues
  split
  next heq =>
    cases text_eq_iff.mp heq
    exact (collate_eq_zero_iff.mpr rfl).symm
  next => rfl

theorem compareWritten_eq : compareWritten a b =
    if a.typeName ≠ b.typeName then compareTexts a.typeName b.typeName
    else compareTexts a.shown b.shown := by
  simp only [compareWritten, thenBy, ne_eq, compareTexts_eq_zero_iff]

theorem collateValues_of_not_eq (hne : ¬eq a b = true) (hnot : ∀ s t, a = text s → b ≠ text t) :
    collateValues a b =
      match compare? .less a b, compare? .greater a b with
      | some true, _ => -1
      | some false, some true => 1
      | some false, some false => 0
      | _, _ => compareWritten a b := by
  rw [compareWritten_eq]
  unfold collateValues
  rw [if_neg hne]
  split
  next s t => exact absurd rfl (hnot s t rfl)
  next => rfl

theorem collateValues_of_isUnordered (h : isUnordered a b = true) :
    collateValues a b = compareWritten a b := by
  simp only [isUnordered, Bool.and_eq_true, Bool.not_eq_true', Option.isNone_iff_eq_none] at h
  obtain ⟨hne, hnone⟩ := h
  rw [collateValues_of_not_eq (by simp [hne]), hnone]
  rintro s t rfl rfl
  cases hnone

namespace IsJson

theorem collateValues_of_leads (ha : a.IsJson) (h : Leads a b) : collateValues a b = -1 := by
  by_cases htext : ∃ s, a = .text s
  · obtain ⟨s, rfl⟩ := htext
    obtain ⟨t, rfl, hlt⟩ := h
    rw [collateValues_texts, collate_neg_iff.mp hlt]
  · rw [not_exists] at htext
    have hbelow := (leads_iff_below htext).mp h
    rw [collateValues_of_not_eq (ha.not_eq_of_below hbelow) fun s _ heq => absurd heq (htext s),
      hbelow]

theorem not_below_of_below (ha : a.IsJson) (hb : b.IsJson) (h : Below a b) : ¬Below b a :=
  fun h' => ha.not_eq_of_below (ha.below_trans hb ha h h') ha.eq_self

theorem collateValues_of_leads_left (ha : a.IsJson) (hb : b.IsJson) (h : Leads b a) :
    collateValues a b = 1 := by
  by_cases htext : ∃ t, b = .text t
  · obtain ⟨t, rfl⟩ := htext
    obtain ⟨s, rfl, hlt⟩ := h
    rw [collateValues_texts, opposes_collate t trivial s trivial, collate_neg_iff.mp hlt]
    rfl
  · rw [not_exists] at htext
    have hbelow := (leads_iff_below htext).mp h
    have hne : ¬eq a b = true := fun heq => hb.not_eq_of_below hbelow (ha.eq_symm hb heq)
    -- The first question has an answer since the second has, and it is not that it is smaller.
    rw [collateValues_of_not_eq hne fun _ t _ => htext t, ha.compare?_greater hb, hbelow]
    have hsome := ha.isSome_compare? .greater b
    rw [ha.compare?_greater hb, hbelow] at hsome
    cases hless : compare? .less a b with
    | none => rw [hless] at hsome; cases hsome
    | some answer =>
        cases answer with
        | false => rfl
        | true => exact absurd hless (hb.not_below_of_below ha hbelow)

/-- Two values are equal, or one comes before the other one by what they are, or they have no
order. -/
theorem leads_trichotomy (ha : a.IsJson) (hb : b.IsJson) (h : isUnordered a b = false) :
    eq a b = true ∨ Leads a b ∨ Leads b a := by
  by_cases htexts : ∃ s t, a = .text s ∧ b = .text t
  · obtain ⟨s, t, rfl, rfl⟩ := htexts
    have hopposite := opposes_collate s trivial t trivial
    rcases lt_trichotomy (collate s t) 0 with hlt | heq | hgt
    · exact .inr (.inl ⟨t, rfl, hlt⟩)
    · exact .inl (text_eq_iff.mpr (by rw [collate_eq_zero_iff.mp heq]))
    · exact .inr (.inr ⟨s, rfl, by omega⟩)
  · have hnot (s t : String) (hs : a = .text s) : b ≠ .text t := fun ht => htexts ⟨s, t, hs, ht⟩
    by_cases heq : eq a b = true
    · exact .inl heq
    · have hsome : (compare? .less a b).isSome = true := by
        simpa [isUnordered, heq, Option.isSome_iff_ne_none] using h
      rcases ha.below_trichotomy hb hsome with heq | hbelow | hbelow
      · exact .inl heq
      · exact .inr (.inl (leads_of_below hbelow hnot))
      · exact .inr (.inr (leads_of_below hbelow fun t s ht hs => hnot s t hs ht))

/-- An order is lacking on both sides. -/
theorem isUnordered_symm (ha : a.IsJson) (hb : b.IsJson) (h : isUnordered a b = true) :
    isUnordered b a = true := by
  simp only [isUnordered, Bool.and_eq_true, Bool.not_eq_true', Option.isNone_iff_eq_none] at h ⊢
  refine ⟨?_, ?_⟩
  · have hne : ¬eq b a = true := fun heq => by simp [hb.eq_symm ha heq] at h
    simpa using hne
  · have hsome := ha.isSome_compare? .greater b
    rw [ha.compare?_greater hb, h.2] at hsome
    simpa using hsome

theorem isUnordered_eq_false_of_leads (ha : a.IsJson) (h : Leads a b) :
    isUnordered a b = false := by
  by_cases htext : ∃ s, a = .text s
  · obtain ⟨s, rfl⟩ := htext
    obtain ⟨t, rfl, -⟩ := h
    simp [isUnordered, compare?]
  · rw [not_exists] at htext
    have hbelow : compare? .less a b = some true := (leads_iff_below htext).mp h
    simp [isUnordered, hbelow]

/-- Values of one type that have no order are lists or objects, and so are written as they are
quoted. -/
theorem bracketed_of_isUnordered (ha : a.IsJson) (hb : b.IsJson) (h : isUnordered a b = true)
    (htype : a.typeName = b.typeName) :
    (a.typeName = "list" ∨ a.typeName = "dict") ∧ compareWritten a b =
      compareTexts a.quoted b.quoted := by
  have hshown : (a.typeName = "list" ∨ a.typeName = "dict") ∧ a.shown = a.quoted ∧
      b.shown = b.quoted := by
    cases ha <;> cases hb <;> simp only [typeName, String.reduceEq] at htype
    case list.list => exact ⟨.inl rfl, rfl, rfl⟩
    case object.object => exact ⟨.inr rfl, rfl, rfl⟩
    all_goals simp [isUnordered, compare?, isNumeric, eq, isNull] at h
  obtain ⟨hbracketed, hshown, hshown'⟩ := hshown
  rw [compareWritten_eq, if_neg (not_not.mpr htype), hshown, hshown']
  exact ⟨hbracketed, rfl⟩

theorem compareWritten_ne_zero (ha : a.IsJson) (hb : b.IsJson) (h : isUnordered a b = true) :
    compareWritten a b ≠ 0 := by
  by_cases htype : a.typeName = b.typeName
  · rw [(ha.bracketed_of_isUnordered hb h htype).2, ne_eq, compareTexts_eq_zero_iff]
    intro heq
    rw [quoted_injective ha hb heq, isUnordered, hb.eq_self] at h
    cases h
  · rwa [compareWritten_eq, if_pos htype, ne_eq, compareTexts_eq_zero_iff]

/-- The comparison of values changes its sign with the sides. -/
theorem opposes_collateValues : Opposes collateValues {a | a.IsJson} := by
  intro a ha b hb
  cases hunordered : isUnordered a b with
  | true =>
      rw [collateValues_of_isUnordered hunordered,
        collateValues_of_isUnordered (ha.isUnordered_symm hb hunordered)]
      exact opposes_compareWritten a trivial b trivial
  | false =>
      rcases ha.leads_trichotomy hb hunordered with heq | hleads | hleads
      · rw [collateValues_of_eq heq, collateValues_of_eq (ha.eq_symm hb heq)]
        rfl
      · rw [ha.collateValues_of_leads hleads, hb.collateValues_of_leads_left ha hleads]
        rfl
      · rw [hb.collateValues_of_leads hleads, ha.collateValues_of_leads_left hb hleads]

end IsJson

/-- One value is equal to another one or comes before it by what they are. -/
def AtMost (a b : Value) : Prop :=
  eq a b = true ∨ Leads a b

theorem text_atMost_iff {s : String} : AtMost (text s) b ↔ ∃ t, b = text t ∧ collate s t ≤ 0 := by
  simp only [AtMost, text_eq_iff, Leads]
  constructor
  · rintro (rfl | ⟨t, rfl, hlt⟩)
    · exact ⟨s, rfl, (collate_eq_zero_iff.mpr rfl).le⟩
    · exact ⟨t, rfl, hlt.le⟩
  · rintro ⟨t, rfl, hle⟩
    rcases hle.lt_or_eq with hlt | heq
    · exact .inr ⟨t, rfl, hlt⟩
    · exact .inl (by rw [collate_eq_zero_iff.mp heq])

namespace IsJson

theorem atMost_trans (ha : a.IsJson) (hb : b.IsJson) (hc : c.IsJson) (hab : AtMost a b)
    (hbc : AtMost b c) : AtMost a c := by
  by_cases htext : ∃ s, a = .text s
  · obtain ⟨s, rfl⟩ := htext
    obtain ⟨t, rfl, hst⟩ := text_atMost_iff.mp hab
    obtain ⟨u, rfl, htu⟩ := text_atMost_iff.mp hbc
    exact text_atMost_iff.mpr ⟨u, rfl, transits_collate s trivial t trivial u trivial hst htu⟩
  · rw [not_exists] at htext
    -- No text comes after what is none, so that the order of values is met on both steps.
    have htext' (t : String) : b ≠ .text t := by
      rintro rfl
      rcases hab with heq | hleads
      · exact htext t (text_eq_iff.mp (ha.eq_symm hb heq))
      · exact ne_text_of_below ((leads_iff_below htext).mp hleads) htext t rfl
    simp only [AtMost, leads_iff_below htext, leads_iff_below htext'] at hab hbc ⊢
    rcases hab with hab | hab
    · rcases hbc with hbc | hbc
      · exact .inl (ha.eq_trans hb hc hab hbc)
      · exact .inr (ha.below_of_eq_of_below hb hc hab hbc)
    · rcases hbc with hbc | hbc
      · exact .inr (ha.below_of_below_of_eq hb hc hab hbc)
      · exact .inr (ha.below_trans hb hc hab hbc)

theorem isUnordered_eq_false_of_atMost (ha : a.IsJson) (h : AtMost a b) :
    isUnordered a b = false := by
  rcases h with heq | hleads
  · simp [isUnordered, heq]
  · exact ha.isUnordered_eq_false_of_leads hleads

theorem collateValues_nonpos_iff (ha : a.IsJson) (hb : b.IsJson) : collateValues a b ≤ 0 ↔
    AtMost a b ∨ isUnordered a b = true ∧ compareWritten a b < 0 := by
  cases hunordered : isUnordered a b with
  | true =>
      have hne := ha.compareWritten_ne_zero hb hunordered
      have hnot (h : AtMost a b) : False := by
        simp [ha.isUnordered_eq_false_of_atMost h] at hunordered
      rw [collateValues_of_isUnordered hunordered, or_iff_right hnot]
      simp only [true_and]
      omega
  | false =>
      simp only [Bool.false_eq_true, false_and, or_false]
      rcases ha.leads_trichotomy hb hunordered with heq | hleads | hleads
      · simp [collateValues_of_eq heq, AtMost, heq]
      · simp [ha.collateValues_of_leads hleads, AtMost, hleads]
      · have hone := ha.collateValues_of_leads_left hb hleads
        refine iff_of_false (by omega) ?_
        rintro (heq | hleads')
        · have := collateValues_of_eq heq
          omega
        · have := ha.collateValues_of_leads hleads'
          omega

end IsJson

end

/-! ## Values that cross -/

/-- A value crosses two others: the second is not larger than the third, but the first, which is in
no order to either, is written after the third and before the second. -/
def Crosses (z x y : Value) : Prop :=
  collateValues x y ≤ 0 ∧ isUnordered y z = true ∧ isUnordered z x = true ∧
    compareWritten y z < 0 ∧ compareWritten z x < 0

instance (z x y : Value) : Decidable (Crosses z x y) :=
  inferInstanceAs (Decidable (_ ∧ _))

/-- None of some values crosses two others of them. -/
def Uncrossed (values : List Value) : Prop :=
  ∀ x ∈ values, ∀ y ∈ values, ∀ z ∈ values, ¬Crosses z x y

instance (values : List Value) : Decidable (Uncrossed values) :=
  inferInstanceAs (Decidable (∀ x ∈ values, ∀ y ∈ values, ∀ z ∈ values, ¬Crosses z x y))

/-- The comparison of values goes in circles just where one crosses two others. Of the three steps
of a circle, one is from the order that values have: if it were none, what is written would be in a
circle, and if it were two, the third value would have an order to the first. -/
theorem transits_collateValues_iff {values : List Value} (hjson : ∀ a ∈ values, a.IsJson) :
    Transits collateValues {a | a ∈ values} ↔ Uncrossed values := by
  constructor
  · rintro htransits x hx y hy z hz ⟨hxy, hyz, hzx, hlt, hlt'⟩
    rw [← collateValues_of_isUnordered hyz] at hlt
    rw [← collateValues_of_isUnordered hzx] at hlt'
    have hzy := htransits z hz x hx y hy (by omega) hxy
    have hopposite := IsJson.opposes_collateValues z (hjson z hz) y (hjson y hy)
    omega
  · intro huncrossed x hx y hy z hz hxy hyz
    have hopposite := IsJson.opposes_collateValues z (hjson z hz) x (hjson x hx)
    by_contra hmore
    have hzx : collateValues z x ≤ 0 := by omega
    have hjx := hjson x hx
    have hjy := hjson y hy
    have hjz := hjson z hz
    -- Two steps by what values are make a third one, against its being the other way.
    have hnot {a b c : Value} (ha : a.IsJson) (hb : b.IsJson) (hc : c.IsJson)
        (hab : AtMost a b) (hbc : AtMost b c) (hca : isUnordered c a = true) : False := by
      have hordered := ha.isUnordered_eq_false_of_atMost (ha.atMost_trans hb hc hab hbc)
      rw [hc.isUnordered_symm ha hca] at hordered
      cases hordered
    rcases (hjx.collateValues_nonpos_iff hjy).mp hxy with hxy' | ⟨huxy, hwxy⟩
    · rcases (hjy.collateValues_nonpos_iff hjz).mp hyz with hyz' | ⟨huyz, hwyz⟩
      · exact hmore ((hjx.collateValues_nonpos_iff hjz).mpr
          (.inl (hjx.atMost_trans hjy hjz hxy' hyz')))
      · rcases (hjz.collateValues_nonpos_iff hjx).mp hzx with hzx' | ⟨huzx, hwzx⟩
        · exact hnot hjz hjx hjy hzx' hxy' huyz
        · exact huncrossed x hx y hy z hz ⟨hxy, huyz, huzx, hwyz, hwzx⟩
    · rcases (hjz.collateValues_nonpos_iff hjx).mp hzx with hzx' | ⟨huzx, hwzx⟩
      · rcases (hjy.collateValues_nonpos_iff hjz).mp hyz with hyz' | ⟨huyz, hwyz⟩
        · exact hnot hjy hjz hjx hyz' hzx' huxy
        · exact huncrossed z hz x hx y hy ⟨hzx, huxy, huyz, hwxy, hwyz⟩
      · exact huncrossed y hy z hz x hx ⟨hyz, huzx, huxy, hwzx, hwxy⟩

/-! ## Which values cross -/

/-- An object stands between a truth value and another number, by the names of their types. -/
def StandsBetween (z x y : Value) : Prop :=
  z.typeName = "dict" ∧ y.typeName = "bool" ∧ (x.typeName = "int" ∨ x.typeName = "float")

/-- A list stands between two lists to which it has no order, or an object between two objects,
the wrong way round in writing. -/
def StandsAmong (z x y : Value) : Prop :=
  (z.typeName = "list" ∨ z.typeName = "dict") ∧ y.typeName = z.typeName ∧
    z.typeName = x.typeName ∧ isUnordered y z = true ∧ isUnordered z x = true ∧
    y.quoted < z.quoted ∧ z.quoted < x.quoted

theorem typeName_le_of_compareWritten_neg {a b : Value} (h : compareWritten a b < 0) :
    a.typeName ≤ b.typeName := by
  rw [compareWritten_eq] at h
  split at h
  next => exact String.not_lt.mp (String.lt_asymm (compareTexts_neg_iff.mp h))
  next heq => exact not_not.mp heq ▸ String.le_refl _

theorem compareWritten_neg_of_typeName_lt {a b : Value} (h : a.typeName < b.typeName) :
    compareWritten a b < 0 := by
  rw [compareWritten_eq, if_pos (String.ne_of_lt h), compareTexts_neg_iff]
  exact h

namespace IsJson

variable {a b x y z : Value}

theorem alike_of_atMost (ha : a.IsJson) (hb : b.IsJson) (h : AtMost a b) :
    a.isNumeric = true ∧ b.isNumeric = true ∨ a.typeName = b.typeName := by
  cases ha <;> cases hb <;>
    simp_all [AtMost, Leads, Below, eq, compare?, isNumeric, isNull, typeName, samePlace, place?]

theorem typeName_of_isNumeric (ha : a.IsJson) (h : a.isNumeric = true) :
    a.typeName = "bool" ∨ a.typeName = "int" ∨ a.typeName = "float" := by
  cases ha <;> simp_all [typeName, isNumeric]

theorem typeName_of_not_isNumeric (ha : a.IsJson) (h : a.isNumeric = false) :
    a.typeName = "NoneType" ∨ a.typeName = "str" ∨ a.typeName = "list" ∨ a.typeName = "dict" := by
  cases ha <;> simp_all [typeName, isNumeric]

theorem isNumeric_of_isUnordered (ha : a.isNumeric = true) (h : isUnordered a b = true) :
    b.isNumeric = false := by
  by_contra hb
  rw [isUnordered, compare?_of_isNumeric _ ha, if_pos (by simpa using hb)] at h
  simp at h

/-- An object has no order to a value of another type. -/
theorem isUnordered_object (ha : a.IsJson) (hb : b.IsJson) (htype : b.typeName = "dict")
    (hne : a.typeName ≠ "dict") : isUnordered a b = true := by
  cases hb <;> simp only [typeName, String.reduceEq] at htype
  cases ha with
  | object hkeys hfields => exact absurd rfl hne
  | _ => simp [isUnordered, eq, compare?, isNumeric, isNull, samePlace, place?]

/-- What crosses two numbers is an object between a truth value and another number. -/
theorem standsBetween_of_isNumeric (hx : x.IsJson) (hy : y.IsJson) (hz : z.IsJson)
    (hnx : x.isNumeric = true) (hny : y.isNumeric = true) (hnz : z.isNumeric = false)
    (hyz : y.typeName ≤ z.typeName) (hzx : z.typeName ≤ x.typeName) : StandsBetween z x y := by
  rw [StandsBetween]
  rcases hx.typeName_of_isNumeric hnx with h | h | h <;>
    rcases hy.typeName_of_isNumeric hny with h' | h' | h' <;>
    rcases hz.typeName_of_not_isNumeric hnz with h'' | h'' | h'' | h'' <;>
    simp [h, h', h''] at hyz hzx ⊢

theorem stands_of_crosses (hx : x.IsJson) (hy : y.IsJson) (hz : z.IsJson) (h : Crosses z x y) :
    StandsBetween z x y ∨ StandsAmong z x y := by
  obtain ⟨hxy, hyz, hzx, hlt, hlt'⟩ := h
  have hle := typeName_le_of_compareWritten_neg hlt
  have hle' := typeName_le_of_compareWritten_neg hlt'
  -- What is written goes in no circle, so that the third step is by what the values are.
  have hatMost : AtMost x y := by
    refine ((hx.collateValues_nonpos_iff hy).mp hxy).resolve_right ?_
    rintro ⟨-, hlt''⟩
    have := transits_compareWritten x trivial y trivial z trivial hlt''.le hlt.le
    have := opposes_compareWritten x trivial z trivial
    omega
  rcases hx.alike_of_atMost hy hatMost with ⟨hnx, hny⟩ | htype
  · exact .inl (hx.standsBetween_of_isNumeric hy hz hnx hny
      (isNumeric_of_isUnordered hny hyz) hle hle')
  · have htype' : y.typeName = z.typeName := String.le_antisymm hle (htype ▸ hle')
    obtain ⟨-, hquoted⟩ := hy.bracketed_of_isUnordered hz hyz htype'
    obtain ⟨hbracketed, hquoted'⟩ := hz.bracketed_of_isUnordered hx hzx (by rw [htype, htype'])
    rw [hquoted, compareTexts_neg_iff] at hlt
    rw [hquoted', compareTexts_neg_iff] at hlt'
    exact .inr ⟨hbracketed, htype', by rw [htype, htype'], hyz, hzx, hlt, hlt'⟩

theorem crosses_of_standsBetween (hx : x.IsJson) (hy : y.IsJson) (hz : z.IsJson)
    (hxy : collateValues x y ≤ 0) (h : StandsBetween z x y) : Crosses z x y := by
  obtain ⟨hz', hy', hx'⟩ := h
  refine ⟨hxy, ?_, ?_, compareWritten_neg_of_typeName_lt ?_, compareWritten_neg_of_typeName_lt ?_⟩
  · exact hy.isUnordered_object hz hz' (by simp [hy'])
  · exact hx.isUnordered_symm hz
      (hx.isUnordered_object hz hz' (by rcases hx' with h | h <;> simp [h]))
  · rw [hy', hz']
    decide
  · rcases hx' with h | h <;> rw [hz', h] <;> decide

theorem crosses_of_standsAmong (hx : x.IsJson) (hy : y.IsJson) (hz : z.IsJson)
    (hxy : collateValues x y ≤ 0) (h : StandsAmong z x y) : Crosses z x y := by
  obtain ⟨-, htype, htype', hyz, hzx, hlt, hlt'⟩ := h
  rw [← compareTexts_neg_iff] at hlt hlt'
  refine ⟨hxy, hyz, hzx, ?_, ?_⟩
  · rwa [(hy.bracketed_of_isUnordered hz hyz htype).2]
  · rwa [(hz.bracketed_of_isUnordered hx hzx htype').2]

theorem crosses_iff (hx : x.IsJson) (hy : y.IsJson) (hz : z.IsJson) : Crosses z x y ↔
    collateValues x y ≤ 0 ∧ (StandsBetween z x y ∨ StandsAmong z x y) := by
  refine ⟨fun h => ⟨h.1, hx.stands_of_crosses hy hz h⟩, ?_⟩
  rintro ⟨hxy, hbetween | hamong⟩
  · exact hx.crosses_of_standsBetween hy hz hxy hbetween
  · exact hx.crosses_of_standsAmong hy hz hxy hamong

end IsJson

end Value

end Docbase
