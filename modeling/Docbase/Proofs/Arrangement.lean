import Docbase.StableSort
import Mathlib.Data.List.Pairwise

/-! # What a stable sort gives

Items numbered by their places in a list have one order in which no item stands before one that is
less than it and items of which neither is less stand by their numbers. Wherever an order tells
which items come first without contradicting itself, sorting gives that order, so that no other way
of sorting can give another one.
-/

namespace Docbase

variable {α β : Type}

/-- One numbered item stands before another: the other is not less, and if neither is less, the
numbers decide. -/
def Precedes (less : α → α → Bool) (a b : α × Nat) : Prop :=
  less b.1 a.1 = false ∧ (less a.1 b.1 = true ∨ a.2 < b.2)

/-- A list is what a list of items is when it is put in order, with those of which neither is less
left as they stand. -/
def Arranges (less : α → α → Bool) (items sorted : List α) : Prop :=
  ∃ numbered : List (α × Nat), numbered.Perm items.zipIdx ∧ numbered.Pairwise (Precedes less) ∧
    numbered.map (·.1) = sorted

/-- An order does not contradict itself on items: of two, at most one is less, and what comes after
a second that comes after a first comes after the first. -/
structure WeaklyOrders (less : α → α → Bool) (items : List α) : Prop where
  asymm : ∀ a ∈ items, ∀ b ∈ items, less a b = true → less b a = false
  trans : ∀ a ∈ items, ∀ b ∈ items, ∀ c ∈ items, less b a = false → less c b = false →
    less c a = false

namespace Precedes

variable {less : α → α → Bool}

theorem not_and {a b : α × Nat} (hab : Precedes less a b) (hba : Precedes less b a) : False := by
  obtain ⟨hba', hless | hlt⟩ := hab
  · rw [hba.1] at hless
    cases hless
  · obtain ⟨hab', hless | hgt⟩ := hba
    · rw [hba'] at hless
      cases hless
    · omega

theorem trans {items : List α} (h : WeaklyOrders less items) {a b c : α × Nat}
    (ha : a.1 ∈ items) (hb : b.1 ∈ items) (hc : c.1 ∈ items) (hab : Precedes less a b)
    (hbc : Precedes less b c) : Precedes less a c := by
  refine ⟨h.trans _ ha _ hb _ hc hab.1 hbc.1, ?_⟩
  cases hless : less a.1 c.1 with
  | true => exact .inl rfl
  | false =>
      -- Neither of the ends is less, so that the item between them is not less than either.
      have hcb : less b.1 c.1 = false := h.trans _ hc _ ha _ hb hless hab.1
      have hba : less a.1 b.1 = false := h.trans _ hb _ hc _ ha hbc.1 hless
      have hab' := hab.2.resolve_left (by simp [hba])
      have hbc' := hbc.2.resolve_left (by simp [hcb])
      exact .inr (by omega)

end Precedes

/-- There is only one arrangement of a list. -/
theorem Arranges.unique {less : α → α → Bool} {items sorted sorted' : List α}
    (h : Arranges less items sorted) (h' : Arranges less items sorted') : sorted = sorted' := by
  obtain ⟨numbered, hperm, hordered, rfl⟩ := h
  obtain ⟨numbered', hperm', hordered', rfl⟩ := h'
  congr 1
  exact (hperm.trans hperm'.symm).eq_of_pairwise
    (fun _ _ _ _ hab hba => (Precedes.not_and hab hba).elim) hordered hordered'

theorem pairwise_zipIdx (items : List α) : items.zipIdx.Pairwise fun a b => a.2 < b.2 := by
  rw [← List.pairwise_map (f := Prod.snd), List.zipIdx_map_snd]
  exact List.pairwise_lt_range'

/-- Items of which none is less than another are in order as they stand. -/
theorem Arranges.of_forall_not_less {less : α → α → Bool} (h : ∀ a b, less a b = false)
    (items : List α) : Arranges less items items :=
  ⟨items.zipIdx, .refl _, (pairwise_zipIdx items).imp fun hlt => ⟨h _ _, .inr hlt⟩,
    List.zipIdx_map_fst 0 items⟩

/-! ## Sorting numbered items -/

section

variable (f : α → β) (less : β → β → Bool)

theorem map_insertSorted (sorted : List α) (item : α) :
    (insertSorted (fun a b => less (f a) (f b)) sorted item).map f =
      insertSorted less (sorted.map f) (f item) := by
  have hplace (lo hi : Nat) :
      insertionPoint (fun a b => less (f a) (f b)) item sorted lo hi =
        insertionPoint less (f item) (sorted.map f) lo hi := by
    have hsame (mid : Nat) : (sorted[mid]?.map fun a => less (f item) (f a)).getD false =
        ((sorted.map f)[mid]?.map (less (f item))).getD false := by
      simp [Function.comp_def]
    fun_induction insertionPoint less (f item) (sorted.map f) lo hi with
    | case1 lo hi hlt mid hless ih =>
        rw [insertionPoint, if_pos hlt, ← ih]
        exact if_pos ((hsame mid).trans hless)
    | case2 lo hi hlt mid hless ih =>
        rw [insertionPoint, if_pos hlt, ← ih]
        exact if_neg ((hsame mid).trans_ne hless)
    | case3 lo hi hlt => rw [insertionPoint, if_neg hlt]
  simp [insertSorted, hplace]

theorem map_takeRun (follows : β → β → Bool) (last : α) (items : List α) :
    takeRun follows (f last) (items.map f) =
      ((takeRun (fun a b => follows (f a) (f b)) last items).1.map f,
        (takeRun (fun a b => follows (f a) (f b)) last items).2.map f) := by
  induction items generalizing last with
  | nil => rfl
  | cons next rest ih =>
      simp only [List.map_cons, takeRun]
      split
      next => rw [ih]; rfl
      next => rfl

/-- Sorting by what items are made to and making it of the items sorted come to the same. -/
theorem map_stableSort (items : List α) :
    (stableSort (fun a b => less (f a) (f b)) items).map f = stableSort less (items.map f) := by
  have hinsert (rest sorted : List α) :
      (rest.foldl (insertSorted fun a b => less (f a) (f b)) sorted).map f =
        (rest.map f).foldl (insertSorted less) (sorted.map f) := by
    induction rest generalizing sorted with
    | nil => rfl
    | cons item rest ih => simp only [List.foldl_cons, List.map_cons, ih, map_insertSorted]
  match items with
  | [] => rfl
  | [_] => rfl
  | first :: second :: rest =>
    simp only [List.map_cons, stableSort]
    rw [← List.map_cons, map_takeRun f (fun x y => less y x == less (f second) (f first))]
    rw [hinsert]
    split <;> simp

end

section

variable {less : α → α → Bool}

/-- Halving finds the place before which no item is larger than the new one, and after which all
are. -/
theorem insertionPoint_spec {item : α} {sorted : List α}
    (hmono : sorted.Pairwise fun a b => less item a = true → less item b = true) (lo hi : Nat)
    (hlo : ∀ a ∈ sorted.take lo, less item a = false)
    (hhi : ∀ a ∈ sorted.drop hi, less item a = true) (hle : lo ≤ hi)
    (hlength : hi ≤ sorted.length) :
    (∀ a ∈ sorted.take (insertionPoint less item sorted lo hi), less item a = false) ∧
      ∀ a ∈ sorted.drop (insertionPoint less item sorted lo hi), less item a = true := by
  fun_induction insertionPoint less item sorted lo hi with
  | case1 lo hi hlt mid hless ih =>
      have hmid : mid < sorted.length := by omega
      refine ih hlo ?_ (by omega) (by omega)
      rw [List.getElem?_eq_getElem hmid] at hless
      rw [List.drop_eq_getElem_cons hmid]
      have htail := hmono.sublist (List.drop_sublist mid sorted)
      rw [List.drop_eq_getElem_cons hmid, List.pairwise_cons] at htail
      intro a ha
      rcases List.mem_cons.mp ha with rfl | hlater
      · exact hless
      · exact htail.1 a hlater hless
  | case2 lo hi hlt mid hless ih =>
      have hmid : mid < sorted.length := by omega
      refine ih ?_ hhi (by omega) (by omega)
      rw [List.getElem?_eq_getElem hmid] at hless
      have hhead := hmono.sublist (List.take_sublist (mid + 1) sorted)
      rw [List.take_succ_eq_append_getElem hmid, List.pairwise_append] at hhead
      rw [List.take_succ_eq_append_getElem hmid]
      intro a ha
      rcases List.mem_append.mp ha with hearlier | hhere
      · by_contra hmore
        exact hless (hhead.2.2 a hearlier _ (by simp) (by simpa using hmore))
      · rw [List.mem_singleton.mp hhere]
        simpa using hless
  | case3 lo hi hlt =>
      obtain rfl : lo = hi := by omega
      exact ⟨hlo, hhi⟩

theorem pairwise_takeRun {R : α → α → Prop} {follows : α → α → Bool} {last : α} {items : List α}
    (htrans : ∀ a ∈ last :: items, ∀ b ∈ last :: items, ∀ c ∈ last :: items,
      R a b → R b c → R a c)
    (hstep : (last :: items).Pairwise fun a b => follows a b = true → R a b) :
    (last :: (takeRun follows last items).1).Pairwise R := by
  fun_induction takeRun follows last items with
  | case1 last => simp
  | case2 last next rest hfollows run left hrun ih =>
      obtain ⟨hlast, hrest⟩ := List.pairwise_cons.mp hstep
      have hlater := ih (fun a ha b hb c hc => htrans a (List.mem_cons_of_mem _ ha) b
        (List.mem_cons_of_mem _ hb) c (List.mem_cons_of_mem _ hc)) hrest
      have hmem : ∀ b ∈ run, b ∈ rest := by
        intro b hb
        rw [← takeRun_append follows next rest, hrun]
        exact List.mem_append_left _ hb
      have hnext : R last next := hlast next List.mem_cons_self hfollows
      refine List.pairwise_cons.mpr ⟨fun b hb => ?_, by simpa [hrun] using hlater⟩
      rcases List.mem_cons.mp hb with rfl | hb
      · exact hnext
      · rw [hrun] at hlater
        exact htrans _ (by simp) next (by simp) b (by simp [hmem b hb]) hnext
          ((List.pairwise_cons.mp hlater).1 b hb)
  | case3 last next rest => simp

/-- Items with numbers are compared without their numbers. -/
def lessFirst (less : α → α → Bool) (a b : α × Nat) : Bool :=
  less a.1 b.1

section

variable {numbered : List (α × Nat)} {item : α × Nat} {items : List α}
  (h : WeaklyOrders less items)

include h

theorem pairwise_insertSorted (hordered : numbered.Pairwise (Precedes less))
    (hnumbered : ∀ a ∈ numbered, a.1 ∈ items) (hitem : item.1 ∈ items)
    (hlast : ∀ a ∈ numbered, a.2 < item.2) :
    (insertSorted (lessFirst less) numbered item).Pairwise (Precedes less) := by
  have hmono : numbered.Pairwise fun a b =>
      lessFirst less item a = true → lessFirst less item b = true := by
    refine hordered.imp_of_mem fun {a b} ha hb hab hless => ?_
    by_contra hnot
    have hnot' : less item.1 b.1 = false := by simpa [lessFirst] using hnot
    have hsmall := h.trans _ (hnumbered a ha) _ (hnumbered b hb) _ hitem hab.1 hnot'
    rw [lessFirst, hsmall] at hless
    cases hless
  obtain ⟨hbefore, hafter⟩ := insertionPoint_spec hmono 0 numbered.length (by simp) (by simp)
    (Nat.zero_le _) (Nat.le_refl _)
  simp only [insertSorted]
  generalize insertionPoint (lessFirst less) item numbered 0 numbered.length = place at *
  have hparts := hordered
  rw [← List.take_append_drop place numbered, List.pairwise_append] at hparts
  refine List.pairwise_append.mpr ⟨hparts.1, List.pairwise_cons.mpr ⟨?_, hparts.2.1⟩, ?_⟩
  · intro b hb
    have hless : less item.1 b.1 = true := hafter b hb
    exact ⟨h.asymm _ hitem _ (hnumbered b (List.mem_of_mem_drop hb)) hless, .inl hless⟩
  · intro a ha b hb
    rcases List.mem_cons.mp hb with rfl | hb
    · exact ⟨hbefore a ha, .inr (hlast a (List.mem_of_mem_take ha))⟩
    · exact hparts.2.2 a ha b hb

theorem pairwise_foldl_insertSorted {rest : List (α × Nat)}
    (hordered : numbered.Pairwise (Precedes less)) (hnumbered : ∀ a ∈ numbered, a.1 ∈ items)
    (hrest : ∀ b ∈ rest, b.1 ∈ items) (hincreasing : rest.Pairwise fun a b => a.2 < b.2)
    (hlast : ∀ a ∈ numbered, ∀ b ∈ rest, a.2 < b.2) :
    (rest.foldl (insertSorted (lessFirst less)) numbered).Pairwise (Precedes less) := by
  induction rest generalizing numbered with
  | nil => exact hordered
  | cons item rest ih =>
      obtain ⟨hitem, hincreasing⟩ := List.pairwise_cons.mp hincreasing
      have hmem (a : α × Nat) (ha : a ∈ insertSorted (lessFirst less) numbered item) :
          a = item ∨ a ∈ numbered := by
        simpa using (insertSorted_perm _ _ _).mem_iff.mp ha
      refine ih (pairwise_insertSorted h hordered hnumbered (hrest item List.mem_cons_self)
        fun a ha => hlast a ha item List.mem_cons_self) ?_
        (fun b hb => hrest b (List.mem_cons_of_mem _ hb)) hincreasing ?_
      · intro a ha
        rcases hmem a ha with rfl | ha
        · exact hrest a List.mem_cons_self
        · exact hnumbered a ha
      · intro a ha b hb
        rcases hmem a ha with rfl | ha
        · exact hitem b hb
        · exact hlast a ha b (List.mem_cons_of_mem _ hb)

theorem pairwise_run {first : α × Nat} (falls : Bool)
    (hnumbered : ∀ a ∈ first :: numbered, a.1 ∈ items)
    (hincreasing : (first :: numbered).Pairwise fun a b => a.2 < b.2) :
    let run := first :: (takeRun (fun x y => lessFirst less y x == falls) first numbered).1
    (if falls then run.reverse else run).Pairwise (Precedes less) := by
  cases falls with
  | false =>
      refine pairwise_takeRun (fun a ha b hb c hc => Precedes.trans h (hnumbered a ha)
        (hnumbered b hb) (hnumbered c hc)) (hincreasing.imp fun {a b} hlt hfollows => ?_)
      exact ⟨by simpa [lessFirst] using hfollows, .inr hlt⟩
  | true =>
      -- A run that falls is in order from its end.
      refine List.pairwise_reverse.mpr (pairwise_takeRun (R := fun a b => Precedes less b a)
        (fun a ha b hb c hc hab hbc => Precedes.trans h (hnumbered c hc) (hnumbered b hb)
          (hnumbered a ha) hbc hab) ?_)
      refine List.pairwise_of_forall_mem_list fun a ha b hb hfollows => ?_
      have hless : less b.1 a.1 = true := by simpa [lessFirst] using hfollows
      exact ⟨h.asymm _ (hnumbered b hb) _ (hnumbered a ha) hless, .inl hless⟩

theorem pairwise_stableSort (hnumbered : ∀ a ∈ numbered, a.1 ∈ items)
    (hincreasing : numbered.Pairwise fun a b => a.2 < b.2) :
    (stableSort (lessFirst less) numbered).Pairwise (Precedes less) := by
  match numbered with
  | [] => exact .nil
  | [_] => exact List.pairwise_singleton _ _
  | first :: second :: rest =>
    simp only [stableSort]
    generalize lessFirst less second first = falls
    have happend := takeRun_append (fun x y => lessFirst less y x == falls) first (second :: rest)
    have hrun := pairwise_run h falls hnumbered hincreasing
    generalize takeRun (fun x y => lessFirst less y x == falls) first (second :: rest) = taken
      at happend hrun
    obtain ⟨run, left⟩ := taken
    dsimp only at happend hrun
    rw [← happend, ← List.cons_append] at hnumbered hincreasing
    have hincreases := List.pairwise_append.mp hincreasing
    have hmem (a : α × Nat) : a ∈ (if falls then (first :: run).reverse else first :: run) ↔
        a ∈ first :: run := by
      split
      next => exact List.mem_reverse
      next => rfl
    refine pairwise_foldl_insertSorted h hrun
      (fun a ha => hnumbered a (List.mem_append_left _ ((hmem a).mp ha)))
      (fun b hb => hnumbered b (List.mem_append_right _ hb)) hincreases.2.1 fun a ha b hb => ?_
    exact hincreases.2.2 a ((hmem a).mp ha) b hb

/-- Where an order does not contradict itself, sorting by it arranges the items. -/
theorem arranges_stableSort : Arranges less items (stableSort less items) := by
  refine ⟨stableSort (lessFirst less) items.zipIdx, stableSort_perm _ _, ?_, ?_⟩
  · exact pairwise_stableSort h (fun a ha => List.fst_mem_of_mem_zipIdx ha)
      (pairwise_zipIdx items)
  · exact (map_stableSort Prod.fst less items.zipIdx).trans (by rw [List.zipIdx_map_fst])

end

end

end Docbase
