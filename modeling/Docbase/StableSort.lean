/-!
# Stable sorting

A list is sorted by inserting its items one after the other, each at the place found by halving,
into the run that the list begins with. Items of which neither is less than the other keep their
order.
-/

namespace Docbase

variable {α : Type}

/-- The place, between `lo` and `hi`, before which an item is to be inserted into a sorted list:
after all items that it is not less than. -/
def insertionPoint (less : α → α → Bool) (item : α) (sorted : List α) (lo hi : Nat) : Nat :=
  if lo < hi then
    let mid := (lo + hi) / 2
    if (sorted[mid]?.map (less item)).getD false then insertionPoint less item sorted lo mid
    else insertionPoint less item sorted (mid + 1) hi
  else lo
termination_by hi - lo

/-- Inserts an item into a sorted list. -/
def insertSorted (less : α → α → Bool) (sorted : List α) (item : α) : List α :=
  let place := insertionPoint less item sorted 0 sorted.length
  sorted.take place ++ item :: sorted.drop place

/-- The items that follow an item one after the other, and the rest of the list. -/
def takeRun (follows : α → α → Bool) : α → List α → List α × List α
  | _, [] => ([], [])
  | last, next :: rest =>
    if follows last next then
      let (run, left) := takeRun follows next rest
      (next :: run, left)
    else ([], next :: rest)

/-- Sorts a list. The run that it begins with is taken as it is when it rises, and backwards when
it falls. -/
def stableSort (less : α → α → Bool) : List α → List α
  | first :: second :: rest =>
    let falls := less second first
    let (run, left) := takeRun (fun x y => less y x == falls) first (second :: rest)
    left.foldl (insertSorted less) (if falls then (first :: run).reverse else first :: run)
  | short => short

/-- Inserting an item adds it and nothing else. -/
theorem insertSorted_perm (less : α → α → Bool) (sorted : List α) (item : α) :
    (insertSorted less sorted item).Perm (item :: sorted) := by
  simp only [insertSorted]
  exact List.perm_middle.trans (by rw [List.take_append_drop])

/-- A run and the rest make up the list. -/
theorem takeRun_append (follows : α → α → Bool) (last : α) (items : List α) :
    (takeRun follows last items).1 ++ (takeRun follows last items).2 = items := by
  fun_induction takeRun follows last items <;> simp_all

theorem foldl_insertSorted_perm (less : α → α → Bool) (items sorted : List α) :
    (items.foldl (insertSorted less) sorted).Perm (sorted ++ items) := by
  induction items generalizing sorted with
  | nil => simp
  | cons item rest ih =>
    exact (ih _).trans (((insertSorted_perm less sorted item).append_right rest).trans
      List.perm_middle.symm)

/-- Sorting neither loses nor repeats items. -/
theorem stableSort_perm (less : α → α → Bool) (items : List α) :
    (stableSort less items).Perm items := by
  match items with
  | [] => rfl
  | [_] => rfl
  | first :: second :: rest =>
    have whole := takeRun_append (fun x y => less y x == less second first) first (second :: rest)
    simp only [stableSort]
    refine (foldl_insertSorted_perm less _ _).trans ?_
    split
    · refine ((List.reverse_perm _).append_right _).trans ?_
      rw [List.cons_append, whole]
    · rw [List.cons_append, whole]

end Docbase
