import Docbase.Proofs.Grouping
import Mathlib.Data.List.Forall2
import Mathlib.Data.List.Perm.Subperm

/-! # Equality and order of values of JSON

On values of JSON, equality is an equivalence. What is smaller than a value is smaller than all that
is equal to it and than all that is larger, and of two values that have an order one is smaller, or
they are equal. But many values have no order, and lists have one only if their first items that
are not equal do.
-/

namespace Docbase

namespace Double.Place

variable {p q r : Place}

theorem lt_irrefl (p : Place) : p.lt p = false := by
  cases p <;> simp [lt]

theorem lt_trans (h : p.lt q = true) (h' : q.lt r = true) : p.lt r = true := by
  cases p <;> cases q <;> cases r <;> simp_all [lt]
  omega

theorem lt_trichotomy (p q : Place) : p = q ∨ p.lt q = true ∨ q.lt p = true := by
  cases p <;> cases q <;> simp [lt]
  omega

end Double.Place

/-- Of two texts that are not the same, one is smaller. -/
theorem text_trichotomy (s t : String) : s = t ∨ s < t ∨ t < s := by
  by_cases hst : s < t
  · exact .inr (.inl hst)
  · by_cases hts : t < s
    · exact .inr (.inr hts)
    · exact .inl (String.le_antisymm (String.not_lt.mp hts) (String.not_lt.mp hst))

section

variable {α : Type} {R S T : α → α → Prop} {o p q : Option α}

theorem optionRel_symm (h : Option.Rel R o p) (himp : ∀ x ∈ o, ∀ y ∈ p, R x y → S y x) :
    Option.Rel S p o := by
  cases h with
  | none => exact .none
  | some hxy => exact .some (himp _ rfl _ rfl hxy)

theorem optionRel_trans (h : Option.Rel R o p) (h' : Option.Rel S p q)
    (himp : ∀ x ∈ o, ∀ y ∈ p, ∀ z ∈ q, R x y → S y z → T x z) : Option.Rel T o q := by
  cases h with
  | none => cases h'; exact .none
  | some hxy =>
      cases h' with
      | some hyz => exact .some (himp _ rfl _ rfl _ rfl hxy hyz)

end

namespace Value

/-! ## Equality -/

theorem eq_eq_samePlace {a b : Value} (h : a.isNumeric = true ∨ b.isNumeric = true) :
    eq a b = samePlace a b := by
  rcases h with h | h
  · cases a with
    | bool x => rfl
    | int n => rfl
    | double x => rfl
    | _ => cases h
  · cases b with
    | bool x => cases a <;> rfl
    | int n => cases a <;> rfl
    | double x => cases a <;> rfl
    | _ => cases h

theorem samePlace_iff {a b : Value} :
    samePlace a b = true ↔ ∃ p, a.place? = some p ∧ b.place? = some p := by
  unfold samePlace
  cases a.place? <;> cases b.place? <;> simp
  exact eq_comm

theorem isNumeric_of_place? {a : Value} {p : Double.Place} (h : a.place? = some p) :
    a.isNumeric = true := by
  cases a with
  | bool x => rfl
  | int n => rfl
  | double x => rfl
  | _ => cases h

theorem text_eq_iff {s : String} {b : Value} : eq (text s) b = true ↔ b = text s := by
  constructor
  · intro h
    cases b with
    | text t => exact congrArg text (eq_of_beq h).symm
    | _ => cases h
  · rintro rfl
    exact beq_self_eq_true s

theorem eqItems_cons (x y : Value) (xs ys : List Value) :
    eqItems (x :: xs) (y :: ys) = (eq x y && eqItems xs ys) := rfl

theorem eqItems_iff {xs ys : List Value} :
    eqItems xs ys = true ↔ List.Forall₂ (fun x y => eq x y = true) xs ys := by
  induction xs generalizing ys with
  | nil =>
      cases ys with
      | nil => exact iff_of_true rfl .nil
      | cons y ys => exact iff_of_false nofun nofun
  | cons x xs ih =>
      cases ys with
      | nil => exact iff_of_false nofun nofun
      | cons y ys => rw [eqItems_cons, Bool.and_eq_true, ih, List.forall₂_cons]

theorem eqFields_iff {fs gs : List (String × Value)} :
    eqFields fs gs = true ↔ ∀ field ∈ fs, ∃ y, gs.lookup field.1 = some y ∧
      eq field.2 y = true := by
  induction fs with
  | nil => simp [eqFields]
  | cons field rest ih =>
      rw [eqFields, Bool.and_eq_true, ih, List.forall_mem_cons]
      cases hlookup : gs.lookup field.1 <;> simp

theorem list_eq_iff {xs : List Value} {b : Value} : eq (list xs) b = true ↔
    ∃ ys, b = list ys ∧ List.Forall₂ (fun x y => eq x y = true) xs ys := by
  constructor
  · intro h
    cases b with
    | list ys => exact ⟨ys, rfl, eqItems_iff.mp h⟩
    | _ => cases h
  · rintro ⟨ys, rfl, h⟩
    exact eqItems_iff.mpr h

theorem exists_object_of_eq {fs : List (String × Value)} {b : Value}
    (h : eq (object fs) b = true) : ∃ gs, b = object gs := by
  cases b with
  | object gs => exact ⟨gs, rfl⟩
  | _ => cases h

/-- Objects are equal when they have equal values under the same keys. -/
theorem eq_object_iff {fs gs : List (String × Value)} (hfs : (Keyed.keys fs).Nodup)
    (hgs : (Keyed.keys gs).Nodup) :
    eq (object fs) (object gs) = true ↔ ∀ key,
      Option.Rel (fun x y => eq x y = true) (Keyed.get? fs key) (Keyed.get? gs key) := by
  rw [eq, Bool.and_eq_true, beq_iff_eq, eqFields_iff]
  constructor
  · rintro ⟨hlength, hfields⟩ key
    cases hx : Keyed.get? fs key with
    | some x =>
        obtain ⟨y, hy, heq⟩ := hfields _ (Keyed.mem_of_get?_eq_some hx)
        rw [Keyed.get?, hy]
        exact .some heq
    | none =>
        -- There are as many keys on either side, so that none can be left over.
        have hsubset : Keyed.keys fs ⊆ Keyed.keys gs := by
          intro other hother
          obtain ⟨x, hx⟩ := Keyed.exists_get?_of_mem hother
          obtain ⟨y, hy, -⟩ := hfields _ (Keyed.mem_of_get?_eq_some hx)
          exact List.mem_map_of_mem (Keyed.mem_of_get?_eq_some hy)
        have hperm : (Keyed.keys fs).Perm (Keyed.keys gs) :=
          (List.subperm_of_subset hfs hsubset).perm_of_length_le (by simp [Keyed.keys, hlength])
        have hy : Keyed.get? gs key = none := by
          rw [Keyed.get?_eq_none_iff] at hx ⊢
          exact fun hmem => hx (hperm.mem_iff.mpr hmem)
        rw [hy]
        exact .none
  · intro h
    have hkeys (key : String) : key ∈ Keyed.keys fs ↔ key ∈ Keyed.keys gs := by
      rw [← not_iff_not, ← Keyed.get?_eq_none_iff, ← Keyed.get?_eq_none_iff]
      have hkey := h key
      cases hx : Keyed.get? fs key <;> cases hy : Keyed.get? gs key <;>
        simp_all
    refine ⟨?_, fun field hfield => ?_⟩
    · have hperm := (List.perm_ext_iff_of_nodup hfs hgs).mpr hkeys
      simpa [Keyed.keys] using hperm.length_eq
    · have hkey := h field.1
      rw [Keyed.get?_of_mem hfs hfield] at hkey
      cases hy : Keyed.get? gs field.1 with
      | none => rw [hy] at hkey; cases hkey
      | some y =>
          rw [hy] at hkey
          cases hkey with
          | some heq => exact ⟨y, hy, heq⟩

theorem IsJson.exists_place? {a : Value} (ha : a.IsJson) (hnumeric : a.isNumeric = true) :
    ∃ p, a.place? = some p := by
  cases ha with
  | bool b => exact ⟨_, rfl⟩
  | int n => exact ⟨_, rfl⟩
  | double _ hnumber => exact exists_place hnumber
  | _ => cases hnumeric

/-- Induction on values of JSON, in which all numbers are alike. -/
@[elab_as_elim]
theorem IsJson.numberInduction {motive : (a : Value) → a.IsJson → Prop} (null : motive .null .null)
    (number : ∀ (a : Value) (ha : a.IsJson) (p : Double.Place), a.place? = some p → motive a ha)
    (text : ∀ s, motive (.text s) (.text s))
    (list : ∀ (items : List Value) (hitems : ∀ item ∈ items, item.IsJson),
      (∀ item hitem, motive item (hitems item hitem)) → motive (.list items) (.list hitems))
    (object : ∀ (fields : List (String × Value)) (hkeys : (Keyed.keys fields).Nodup)
      (hfields : ∀ field ∈ fields, field.2.IsJson),
      (∀ field hfield, motive field.2 (hfields field hfield)) →
        motive (.object fields) (.object hkeys hfields))
    {a : Value} (ha : a.IsJson) : motive a ha := by
  have hnumber {a : Value} (ha : a.IsJson) (hnumeric : a.isNumeric = true) : motive a ha := by
    obtain ⟨p, hp⟩ := ha.exists_place? hnumeric
    exact number a ha p hp
  induction ha with
  | null => exact null
  | bool b => exact hnumber _ rfl
  | int n => exact hnumber _ rfl
  | double hproper hnan => exact hnumber _ rfl
  | text s => exact text s
  | list hitems ih => exact list _ hitems ih
  | object hkeys hfields ih => exact object _ hkeys hfields ih

theorem eq_iff_of_place? {a b : Value} {p : Double.Place} (ha : a.place? = some p) :
    eq a b = true ↔ b.place? = some p := by
  rw [eq_eq_samePlace (.inl (isNumeric_of_place? ha)), samePlace_iff, ha]
  simp [Eq.comm]

theorem null_eq_iff {b : Value} : eq null b = true ↔ b = null := by
  constructor
  · intro h
    cases b with
    | null => rfl
    | _ => cases h
  · rintro rfl
    rfl

theorem IsJson.of_mem {items : List Value} (h : IsJson (.list items)) :
    ∀ item ∈ items, item.IsJson := by
  cases h with
  | list hitems => exact hitems

theorem IsJson.of_get? {fields : List (String × Value)} {key : String} {value : Value}
    (hfields : ∀ field ∈ fields, IsJson field.2) (h : Keyed.get? fields key = some value) :
    value.IsJson :=
  hfields _ (Keyed.mem_of_get?_eq_some h)

theorem IsJson.eq_symm {a b : Value} (ha : a.IsJson) (hb : b.IsJson) (h : eq a b = true) :
    eq b a = true := by
  induction ha using IsJson.numberInduction generalizing b with
  | null =>
      rw [null_eq_iff.mp h]
      rfl
  | number a ha p hp =>
      rw [eq_iff_of_place? hp] at h
      rwa [eq_iff_of_place? h]
  | text s =>
      rw [text_eq_iff.mp h]
      exact text_eq_iff.mpr rfl
  | list items hitems ih =>
      obtain ⟨ys, rfl, heq⟩ := list_eq_iff.mp h
      have hitems' := hb.of_mem
      refine list_eq_iff.mpr ⟨items, rfl, ?_⟩
      clear h hb
      induction heq with
      | nil => exact .nil
      | cons hfirst _ ih' =>
          simp only [List.forall_mem_cons] at hitems hitems' ih
          exact .cons (ih.1 hitems'.1 hfirst) (ih' hitems.2 ih.2 hitems'.2)
  | object fields hkeys hfields ih =>
      cases hb with
      | object hkeys' hfields' =>
          rw [eq_object_iff hkeys hkeys'] at h
          rw [eq_object_iff hkeys' hkeys]
          exact fun key => optionRel_symm (h key) fun x hx y hy =>
            ih _ (Keyed.mem_of_get?_eq_some hx) (.of_get? hfields' hy)
      | _ => cases h

theorem IsJson.eq_trans {a b c : Value} (ha : a.IsJson) (hb : b.IsJson) (hc : c.IsJson)
    (hab : eq a b = true) (hbc : eq b c = true) : eq a c = true := by
  induction ha using IsJson.numberInduction generalizing b c with
  | null => rwa [null_eq_iff.mp hab] at hbc
  | number a ha p hp =>
      rw [eq_iff_of_place? hp] at hab ⊢
      rwa [eq_iff_of_place? hab] at hbc
  | text s => rwa [text_eq_iff.mp hab] at hbc
  | list items hitems ih =>
      obtain ⟨ys, rfl, hxy⟩ := list_eq_iff.mp hab
      obtain ⟨zs, rfl, hyz⟩ := list_eq_iff.mp hbc
      have hitems' := hb.of_mem
      have hitems'' := hc.of_mem
      refine list_eq_iff.mpr ⟨zs, rfl, ?_⟩
      clear hab hbc hb hc
      induction hxy generalizing zs with
      | nil => cases hyz; exact .nil
      | cons hfirst _ ih' =>
          cases hyz with
          | cons hfirst' hrest =>
              simp only [List.forall_mem_cons] at hitems hitems' hitems'' ih
              exact .cons (ih.1 hitems'.1 hitems''.1 hfirst hfirst')
                (ih' hitems.2 ih.2 _ hrest hitems'.2 hitems''.2)
  | object fields hkeys hfields ih =>
      obtain ⟨gs, rfl⟩ := exists_object_of_eq hab
      obtain ⟨hs, rfl⟩ := exists_object_of_eq hbc
      cases hb with
      | object hkeys' hfields' =>
          cases hc with
          | object hkeys'' hfields'' =>
              rw [eq_object_iff hkeys hkeys'] at hab
              rw [eq_object_iff hkeys' hkeys''] at hbc
              rw [eq_object_iff hkeys hkeys'']
              exact fun key => optionRel_trans (hab key) (hbc key) fun x hx y hy z hz =>
                ih _ (Keyed.mem_of_get?_eq_some hx) (.of_get? hfields' hy) (.of_get? hfields'' hz)

/-! ## Order -/

/-- A value is smaller than another one, and they have an order. -/
def Below (a b : Value) : Prop :=
  compare? .less a b = some true

/-- A list is smaller than another one, by the first items that are not equal. -/
def ItemsBelow (xs ys : List Value) : Prop :=
  compareItems? .less xs ys = some true

section

variable {a b : Value} {x y : Value} {xs ys : List Value}

theorem compare?_of_isNumeric (question : Ordered) (ha : a.isNumeric = true) :
    compare? question a b =
      if b.isNumeric then some (compareNumbers question a b) else none := by
  cases a with
  | bool x => rfl
  | int n => rfl
  | double x => rfl
  | _ => cases ha

theorem below_iff_of_place? {p : Double.Place} (ha : a.place? = some p) :
    Below a b ↔ ∃ q, b.place? = some q ∧ p.lt q = true := by
  rw [Below, compare?_of_isNumeric _ (isNumeric_of_place? ha), compareNumbers, ha]
  cases hb : b.place? with
  | none => simp
  | some q => simp [isNumeric_of_place? hb, Ordered.ofPlaces]

theorem exists_text_of_isSome {s : String} (h : (compare? .less (text s) b).isSome = true) :
    ∃ t, b = text t := by
  cases b with
  | text t => exact ⟨t, rfl⟩
  | _ => cases h

theorem exists_list_of_isSome (h : (compare? .less (list xs) b).isSome = true) :
    ∃ ys, b = list ys := by
  cases b with
  | list ys => exact ⟨ys, rfl⟩
  | _ => cases h

theorem Below.isSome (h : Below a b) : (compare? .less a b).isSome = true := by
  rw [h]
  rfl

theorem text_below_iff {s : String} : Below (text s) b ↔ ∃ t, b = text t ∧ s < t := by
  constructor
  · intro h
    obtain ⟨t, rfl⟩ := exists_text_of_isSome h.isSome
    exact ⟨t, rfl, of_decide_eq_true (Option.some.inj h)⟩
  · rintro ⟨t, rfl, hlt⟩
    exact congrArg some (decide_eq_true hlt)

theorem list_below_iff : Below (list xs) b ↔ ∃ ys, b = list ys ∧ ItemsBelow xs ys := by
  constructor
  · intro h
    obtain ⟨ys, rfl⟩ := exists_list_of_isSome h.isSome
    exact ⟨ys, rfl, h⟩
  · rintro ⟨ys, rfl, h⟩
    exact h

theorem not_null_below : ¬Below null b :=
  nofun

theorem not_object_below {fields : List (String × Value)} : ¬Below (object fields) b :=
  nofun

@[simp]
theorem nil_itemsBelow_iff : ItemsBelow [] ys ↔ ys ≠ [] := by
  rw [← List.length_pos_iff]
  exact Option.some_inj.trans decide_eq_true_iff

@[simp]
theorem not_itemsBelow_nil : ¬ItemsBelow xs [] := by
  cases xs <;> rintro ⟨⟩

theorem compareItems?_cons (question : Ordered) (x y : Value) (xs ys : List Value) :
    compareItems? question (x :: xs) (y :: ys) =
      if eq x y then compareItems? question xs ys else compare? question x y := rfl

theorem compare?_lists (question : Ordered) (xs ys : List Value) :
    compare? question (list xs) (list ys) = compareItems? question xs ys := rfl

theorem cons_itemsBelow_iff : ItemsBelow (x :: xs) (y :: ys) ↔
    eq x y = true ∧ ItemsBelow xs ys ∨ eq x y = false ∧ Below x y := by
  rw [ItemsBelow, compareItems?_cons]
  cases eq x y <;> simp [ItemsBelow, Below]

end

theorem IsJson.not_eq_of_below {a b : Value} (ha : a.IsJson) (h : Below a b) : ¬eq a b = true := by
  induction ha using IsJson.numberInduction generalizing b with
  | null => exact absurd h not_null_below
  | number a ha p hp =>
      obtain ⟨q, hq, hlt⟩ := (below_iff_of_place? hp).mp h
      rw [eq_iff_of_place? hp, hq]
      rintro ⟨⟩
      rw [Double.Place.lt_irrefl] at hlt
      cases hlt
  | text s =>
      obtain ⟨t, rfl, hlt⟩ := text_below_iff.mp h
      rw [text_eq_iff]
      rintro ⟨⟩
      exact String.lt_irrefl s hlt
  | list items hitems ih =>
      obtain ⟨ys, rfl, hbelow⟩ := list_below_iff.mp h
      rw [list_eq_iff]
      rintro ⟨ys, ⟨⟩, heq⟩
      clear h
      induction heq with
      | nil => exact not_itemsBelow_nil hbelow
      | cons hfirst _ ih' =>
          simp only [List.forall_mem_cons] at hitems ih
          rcases cons_itemsBelow_iff.mp hbelow with ⟨-, hrest⟩ | ⟨hne, -⟩
          · exact ih' hitems.2 ih.2 hrest
          · rw [hfirst] at hne
            cases hne
  | object fields hkeys hfields ih => exact absurd h not_object_below

theorem IsJson.cons_itemsBelow_iff {x y : Value} {xs ys : List Value} (hx : x.IsJson) :
    ItemsBelow (x :: xs) (y :: ys) ↔ eq x y = true ∧ ItemsBelow xs ys ∨ Below x y := by
  rw [Value.cons_itemsBelow_iff]
  refine or_congr_right ⟨And.right, fun h => ⟨?_, h⟩⟩
  simpa using hx.not_eq_of_below h

/-! The order goes together with equality on either side, and is transitive: each time the items of
lists are gone through until the first that are not equal, on either side. -/

theorem IsJson.below_of_below_of_eq {a b c : Value} (ha : a.IsJson) (hb : b.IsJson)
    (hc : c.IsJson) (hab : Below a b) (hbc : eq b c = true) : Below a c := by
  induction ha using IsJson.numberInduction generalizing b c with
  | null => exact absurd hab not_null_below
  | number a ha p hp =>
      obtain ⟨q, hq, hlt⟩ := (below_iff_of_place? hp).mp hab
      exact (below_iff_of_place? hp).mpr ⟨q, (eq_iff_of_place? hq).mp hbc, hlt⟩
  | text s =>
      obtain ⟨t, rfl, hlt⟩ := text_below_iff.mp hab
      rw [text_eq_iff.mp hbc]
      exact hab
  | list xs hxs ih =>
      obtain ⟨ys, rfl, hbelow⟩ := list_below_iff.mp hab
      obtain ⟨zs, rfl, heq⟩ := list_eq_iff.mp hbc
      have hys := hb.of_mem
      have hzs := hc.of_mem
      refine list_below_iff.mpr ⟨zs, rfl, ?_⟩
      clear hab hbc hb hc
      induction heq generalizing xs with
      | nil => exact absurd hbelow not_itemsBelow_nil
      | cons hyz _ ih' =>
          cases xs with
          | nil => simp
          | cons x xs =>
              simp only [List.forall_mem_cons] at hxs hys hzs ih
              rw [hxs.1.cons_itemsBelow_iff] at hbelow ⊢
              rcases hbelow with ⟨hxy, hrest⟩ | hxy
              · exact .inl ⟨hxs.1.eq_trans hys.1 hzs.1 hxy hyz,
                  ih' _ hxs.2 ih.2 hrest hys.2 hzs.2⟩
              · exact .inr (ih.1 hys.1 hzs.1 hxy hyz)
  | object fields hkeys hfields ih => exact absurd hab not_object_below

theorem IsJson.below_of_eq_of_below {a b c : Value} (ha : a.IsJson) (hb : b.IsJson)
    (hc : c.IsJson) (hab : eq a b = true) (hbc : Below b c) : Below a c := by
  induction ha using IsJson.numberInduction generalizing b c with
  | null =>
      rw [null_eq_iff.mp hab] at hbc
      exact absurd hbc not_null_below
  | number a ha p hp =>
      exact (below_iff_of_place? hp).mpr
        ((below_iff_of_place? ((eq_iff_of_place? hp).mp hab)).mp hbc)
  | text s => rwa [text_eq_iff.mp hab] at hbc
  | list xs hxs ih =>
      obtain ⟨ys, rfl, heq⟩ := list_eq_iff.mp hab
      obtain ⟨zs, rfl, hbelow⟩ := list_below_iff.mp hbc
      have hys := hb.of_mem
      have hzs := hc.of_mem
      refine list_below_iff.mpr ⟨zs, rfl, ?_⟩
      clear hab hbc hb hc
      induction heq generalizing zs with
      | nil => exact hbelow
      | cons hxy _ ih' =>
          cases zs with
          | nil => exact absurd hbelow not_itemsBelow_nil
          | cons z zs =>
              simp only [List.forall_mem_cons] at hxs hys hzs ih
              rw [hys.1.cons_itemsBelow_iff] at hbelow
              rw [hxs.1.cons_itemsBelow_iff]
              rcases hbelow with ⟨hyz, hrest⟩ | hyz
              · exact .inl ⟨hxs.1.eq_trans hys.1 hzs.1 hxy hyz,
                  ih' hxs.2 ih.2 _ hrest hys.2 hzs.2⟩
              · exact .inr (ih.1 hys.1 hzs.1 hxy hyz)
  | object fields hkeys hfields ih =>
      obtain ⟨gs, rfl⟩ := exists_object_of_eq hab
      exact absurd hbc not_object_below

theorem IsJson.below_trans {a b c : Value} (ha : a.IsJson) (hb : b.IsJson) (hc : c.IsJson)
    (hab : Below a b) (hbc : Below b c) : Below a c := by
  induction ha using IsJson.numberInduction generalizing b c with
  | null => exact absurd hab not_null_below
  | number a ha p hp =>
      obtain ⟨q, hq, hpq⟩ := (below_iff_of_place? hp).mp hab
      obtain ⟨r, hr, hqr⟩ := (below_iff_of_place? hq).mp hbc
      exact (below_iff_of_place? hp).mpr ⟨r, hr, Double.Place.lt_trans hpq hqr⟩
  | text s =>
      obtain ⟨t, rfl, hst⟩ := text_below_iff.mp hab
      obtain ⟨u, rfl, htu⟩ := text_below_iff.mp hbc
      exact text_below_iff.mpr ⟨u, rfl, String.lt_trans hst htu⟩
  | list xs hxs ih =>
      obtain ⟨ys, rfl, hxy⟩ := list_below_iff.mp hab
      obtain ⟨zs, rfl, hyz⟩ := list_below_iff.mp hbc
      have hys := hb.of_mem
      have hzs := hc.of_mem
      refine list_below_iff.mpr ⟨zs, rfl, ?_⟩
      clear hab hbc hb hc
      induction xs generalizing ys zs with
      | nil =>
          rw [nil_itemsBelow_iff]
          rintro rfl
          exact not_itemsBelow_nil hyz
      | cons x xs ih' =>
          cases ys with
          | nil => exact absurd hxy not_itemsBelow_nil
          | cons y ys =>
              cases zs with
              | nil => exact absurd hyz not_itemsBelow_nil
              | cons z zs =>
                  simp only [List.forall_mem_cons] at hxs hys hzs ih
                  rw [hxs.1.cons_itemsBelow_iff] at hxy ⊢
                  rw [hys.1.cons_itemsBelow_iff] at hyz
                  rcases hxy with ⟨hxy, hrest⟩ | hxy
                  · rcases hyz with ⟨hyz, hrest'⟩ | hyz
                    · exact .inl ⟨hxs.1.eq_trans hys.1 hzs.1 hxy hyz,
                        ih' hxs.2 ih.2 _ hrest _ hrest' hys.2 hzs.2⟩
                    · exact .inr (hxs.1.below_of_eq_of_below hys.1 hzs.1 hxy hyz)
                  · rcases hyz with ⟨hyz, -⟩ | hyz
                    · exact .inr (hxs.1.below_of_below_of_eq hys.1 hzs.1 hxy hyz)
                    · exact .inr (ih.1 hys.1 hzs.1 hxy hyz)
  | object fields hkeys hfields ih => exact absurd hab not_object_below

/-! ## What has an order -/

theorem compare?_of_not_isNumeric (question : Ordered) {a b : Value} (ha : a.IsJson)
    (hb : b.isNumeric = true) (hnot : a.isNumeric = false) : compare? question a b = none := by
  cases ha with
  | null => rfl
  | text s => cases b <;> first | rfl | cases hb
  | list hitems => cases b <;> first | rfl | cases hb
  | object hkeys hfields => rfl
  | _ => cases hnot

/-- Whether two values have an order is the same for all questions about it. -/
theorem IsJson.isSome_compare? {a : Value} (ha : a.IsJson) (question : Ordered) (b : Value) :
    (compare? question a b).isSome = (compare? .less a b).isSome := by
  induction ha using IsJson.numberInduction generalizing b with
  | null => rfl
  | number a ha p hp =>
      rw [compare?_of_isNumeric _ (isNumeric_of_place? hp),
        compare?_of_isNumeric _ (isNumeric_of_place? hp)]
      split <;> rfl
  | text s => cases b <;> rfl
  | list xs hxs ih =>
      cases b with
      | list ys =>
          rw [compare?_lists, compare?_lists]
          induction xs generalizing ys with
          | nil => rfl
          | cons x xs ih' =>
              cases ys with
              | nil => rfl
              | cons y ys =>
                  simp only [List.forall_mem_cons] at hxs ih
                  rw [compareItems?_cons, compareItems?_cons]
                  split
                  next => exact ih' hxs.2 ih.2 ys
                  next => exact ih.1 y
      | _ => rfl
  | object fields hkeys hfields ih => rfl

/-- Asking whether one value is larger is asking whether the other is smaller. -/
theorem IsJson.compare?_greater {a b : Value} (ha : a.IsJson) (hb : b.IsJson) :
    compare? .greater a b = compare? .less b a := by
  induction ha using IsJson.numberInduction generalizing b with
  | null => cases hb <;> rfl
  | number a ha p hp =>
      rw [compare?_of_isNumeric _ (isNumeric_of_place? hp)]
      cases hnumeric : b.isNumeric with
      | true =>
          obtain ⟨q, hq⟩ := hb.exists_place? hnumeric
          rw [compare?_of_isNumeric _ hnumeric, isNumeric_of_place? hp, compareNumbers,
            compareNumbers, hp, hq]
          rfl
      | false => rw [compare?_of_not_isNumeric _ hb (isNumeric_of_place? hp) hnumeric]; rfl
  | text s => cases hb <;> rfl
  | list xs hxs ih =>
      cases hb with
      | @list ys hys =>
          rw [compare?_lists, compare?_lists]
          induction xs generalizing ys with
          | nil => cases ys <;> rfl
          | cons x xs ih' =>
              cases ys with
              | nil => rfl
              | cons y ys =>
                  simp only [List.forall_mem_cons] at hxs hys ih
                  have hsame : eq x y = eq y x :=
                    Bool.eq_iff_iff.mpr ⟨hxs.1.eq_symm hys.1, hys.1.eq_symm hxs.1⟩
                  rw [compareItems?_cons, compareItems?_cons, hsame, ih' hxs.2 ih.2 hys.2,
                    ih.1 hys.1]
      | _ => rfl
  | object fields hkeys hfields ih => cases hb <;> rfl

/-- Of two values that have an order, one is smaller, or they are equal. -/
theorem IsJson.below_trichotomy {a b : Value} (ha : a.IsJson) (hb : b.IsJson)
    (h : (compare? .less a b).isSome = true) : eq a b = true ∨ Below a b ∨ Below b a := by
  induction ha using IsJson.numberInduction generalizing b with
  | null => cases h
  | number a ha p hp =>
      rw [compare?_of_isNumeric _ (isNumeric_of_place? hp)] at h
      have hnumeric : b.isNumeric = true := by
        by_contra hnot
        simp [hnot] at h
      obtain ⟨q, hq⟩ := hb.exists_place? hnumeric
      rw [eq_iff_of_place? hp, below_iff_of_place? hp, below_iff_of_place? hq, hp, hq]
      rcases Double.Place.lt_trichotomy p q with rfl | hlt | hlt
      · exact .inl rfl
      · exact .inr (.inl ⟨q, rfl, hlt⟩)
      · exact .inr (.inr ⟨p, rfl, hlt⟩)
  | text s =>
      obtain ⟨t, rfl⟩ := exists_text_of_isSome h
      rcases text_trichotomy s t with rfl | hlt | hlt
      · exact .inl (text_eq_iff.mpr rfl)
      · exact .inr (.inl (text_below_iff.mpr ⟨t, rfl, hlt⟩))
      · exact .inr (.inr (text_below_iff.mpr ⟨s, rfl, hlt⟩))
  | list xs hxs ih =>
      obtain ⟨ys, rfl⟩ := exists_list_of_isSome h
      have hys := hb.of_mem
      suffices hitems : eqItems xs ys = true ∨ ItemsBelow xs ys ∨ ItemsBelow ys xs by
        rw [list_below_iff, list_below_iff, eq]
        simpa using hitems
      rw [compare?_lists] at h
      clear hb
      induction xs generalizing ys with
      | nil =>
          cases ys with
          | nil => exact .inl rfl
          | cons y ys => exact .inr (.inl (by simp))
      | cons x xs ih' =>
          cases ys with
          | nil => exact .inr (.inr (by simp))
          | cons y ys =>
              simp only [List.forall_mem_cons] at hxs hys ih
              rw [hxs.1.cons_itemsBelow_iff, hys.1.cons_itemsBelow_iff, eqItems_cons]
              rw [compareItems?_cons] at h
              split at h
              next hxy =>
                -- Equal items decide nothing, on either side.
                have hyx := hxs.1.eq_symm hys.1 hxy
                rcases ih' hxs.2 ih.2 ys h hys.2 with heq | hless | hmore
                · exact .inl (by rw [hxy, heq]; rfl)
                · exact .inr (.inl (.inl ⟨hxy, hless⟩))
                · exact .inr (.inr (.inl ⟨hyx, hmore⟩))
              next hne =>
                rcases ih.1 hys.1 h with hxy | hless | hmore
                · exact absurd hxy hne
                · exact .inr (.inl (.inr hless))
                · exact .inr (.inr (.inr hmore))
  | object fields hkeys hfields ih => cases h

end Value

end Docbase
