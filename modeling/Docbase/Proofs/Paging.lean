import Docbase.Proofs.Decimals
import Docbase.Proofs.Requests
import Docbase.Proofs.Shares

/-! # Pages of what is found

What a request finds is what its filter selects, put in order, cut down to a page, and only then
dressed with related records and stripped of the fields not asked for. A page of what is found is
therefore what is found with that page asked for, and pages of one size, one after the other, make
up the whole.
-/

namespace Docbase

open Effect Script Validated

/-! ## Pages of a list -/

theorem readBound_natCast (n : Nat) :
    readBound (.int n) = .ok (if n = 0 then none else some n) := by
  cases n with
  | zero => rfl
  | succ n =>
      have hpositive : (0 : Int) < ((n + 1 : Nat) : Int) * Double.one :=
        Int.mul_pos (by omega) (Int.natCast_pos.mpr Double.one_pos)
      have htruthy : (Value.int ((n + 1 : Nat) : Int)).isTruthy = true := by
        simpa [Value.isTruthy] using (by omega : ((n : Int) + 1 ≠ 0))
      have hgreater : Value.compare? .greater (.int ((n + 1 : Nat) : Int)) (.int 0) =
          some true := by
        rw [Value.compare?, Value.isNumeric, if_pos rfl]
        simp only [Value.compareNumbers, Value.place?, Ordered.ofPlaces, Double.placeOfInt,
          Double.Place.lt, Int.zero_mul, hpositive, decide_true]
      rw [readBound, htruthy, hgreater]
      rfl

section

variable {α β : Type}

/-- The page of a number, for pages of some size. -/
def pageOf (size : Nat) (found : List α) (number : Nat) : List α :=
  (found.drop (number * size)).take size

/-- The number of pages of some size that are needed for a list. -/
def pageCount (size : Nat) (found : List α) : Nat :=
  (found.length + size - 1) / size

/-- The first pages hold what the list begins with. -/
theorem flatten_pagesOf (size : Nat) (found : List α) (count : Nat) :
    ((List.range count).map (pageOf size found)).flatten = found.take (count * size) := by
  induction count with
  | zero => simp
  | succ count ih =>
      rw [List.range_succ, List.map_append, List.flatten_append, ih, Nat.succ_mul,
        List.take_add]
      simp [pageOf]

theorem pageOf_eq_nil_iff {size : Nat} (hsize : 0 < size) {found : List α} {number : Nat} :
    pageOf size found number = [] ↔ pageCount size found ≤ number := by
  have hlength : pageOf size found number = [] ↔ found.length ≤ number * size := by
    simp [pageOf, List.take_eq_nil_iff, Nat.ne_of_gt hsize]
  rw [hlength, pageCount, Nat.div_le_iff_le_mul_add_pred hsize, Nat.mul_comm]
  omega

theorem page_eq_pageOf {size : Nat} (hsize : 0 < size) (found : List α) (number : Nat) :
    page found (if number * size = 0 then none else some (number * size))
      (if size = 0 then none else some size) = pageOf size found number := by
  rw [pageOf, if_neg (Nat.ne_of_gt hsize)]
  split
  next hnone => simp [page, hnone]
  next => rfl

/-- What is made of the items of a page is the page of what is made of all items. -/
theorem mapM_page {f : α → Except Fault β} {items : List α} {made : List β}
    (h : items.mapM f = .ok made) (offset limit : Option Nat) :
    (page items offset limit).mapM f = .ok (page made offset limit) := by
  rw [Relations.mapM_eq_ok_iff_forall₂] at h ⊢
  cases offset <;> cases limit <;> simp [page, h, List.forall₂_drop, List.forall₂_take]

end

theorem paginate_pageOf {size : Nat} (hsize : 0 < size) (docs : List Document) (number : Nat) :
    paginate docs (.int (number * size : Nat)) (.int size) = .ok (pageOf size docs number) := by
  rw [paginate, readBound_natCast, readBound_natCast]
  exact congrArg Except.ok (page_eq_pageOf hsize docs number)

theorem Effect.attemptAll_yields {σ α ω : Type} {I : σ → Prop} {run : ω → Effect σ α}
    {outcome : ω → Except Fault α} (h : ∀ call, Yields I (run call) (outcome call))
    (calls : List ω) {s : σ} (hs : I s) : (attemptAll run calls s).1 = calls.map outcome := by
  induction calls generalizing s with
  | nil => rfl
  | cons call rest ih =>
      obtain ⟨hsame, hafter⟩ := h call s hs
      simp only [attemptAll, List.map_cons, hsame, ih hafter]

namespace Store

namespace Request

variable {store : Store} {records : String → List Document} {name : String} {request : Request}

/-- If a request finds something without a page, then with a page it finds that page of it, and
fails only if the page cannot be read. -/
theorem answer_paged {found : List Document}
    (h : { request with offset := .null, limit := .null }.answer store records name = .ok found)
    (offset limit : Value) :
    { request with offset, limit }.answer store records name = paginate found offset limit := by
  obtain ⟨filter, order, includes, names, hasks⟩ := asks_of_answer h
  obtain ⟨_, hdocs, hfound⟩ := (answer_eq_ok_iff hasks).mp h
  cases hdocs
  have hturned : { request with offset, limit }.Asks store name filter order includes names :=
    hasks.turned offset limit
  cases hoffset : readBound offset with
  | error fault => rw [answer_eq hturned, paginate, paginate, hoffset]; rfl
  | ok first =>
      cases hlimit : readBound limit with
      | error fault => rw [answer_eq hturned, paginate, paginate, hoffset, hlimit]; rfl
      | ok size =>
          have hpage (docs : List Document) :
              paginate docs offset limit = .ok (page docs first size) := by
            rw [paginate, hoffset, hlimit]
            rfl
          rw [hpage, answer_eq_ok_iff hturned]
          exact ⟨_, hpage _, mapM_page hfound first size⟩

end Request

/-- What it means that the pages of a request make up what it finds without a page. -/
structure PagesTile (store : Store) (s : State) (name : String) (request : Request)
    (found : List Document) : Prop where
  /-- What is found is made of the records that the filter selects, put in order. -/
  sorted : ∃ filter order includes names, request.Asks store name filter order includes names ∧
    let selected := (s.records name).filter filter.holds
    (sortDocuments selected order).Perm selected ∧
      (WeaklyOrders (fun a b => decide (compareDocuments order a b < 0)) selected →
        Arranges (fun a b => decide (compareDocuments order a b < 0)) selected
          (sortDocuments selected order)) ∧
      (sortDocuments selected order).mapM (store.dressed s.records name includes names) =
        .ok found
  /-- Without includes and a selection, it is these records as they are shown. -/
  plain : request.includes = .null → request.select = .null → ∃ filter order,
    Filter.read request.filter = .ok filter ∧ SortField.readAll request.order = .ok order ∧
      found = (sortDocuments ((s.records name).filter filter.holds) order).map Document.formatted
  /-- With a page asked for, that page of it is found. -/
  paged : ∀ offset limit,
    ((store.findAll name { request with offset, limit }).apply s).1 = paginate found offset limit
  /-- Pages of one size, asked for one after the other until one is empty, are what is found. -/
  tiled : ∀ size : Nat, 1 ≤ size → ∃ pages : List (List Document),
    (∀ page ∈ pages, page ≠ []) ∧ pages.flatten = found ∧
      (attemptAll (fun number => store.findAll name
          { request with offset := .int (number * size : Nat), limit := .int size })
        (List.range (pages.length + 1)) s).1 = (pages ++ [[]]).map .ok

/-- What a request finds, it finds page by page, in whatever size of pages. -/
theorem pages_tile (store : Store) (s : State)
    (hpasses : (storeHost store).Passes State.IsNew s) (hconnected : s.isConnected = true)
    (name : String) (request : Request) (found : List Document)
    (hfound : ((store.findAll name { request with offset := .null, limit := .null }).apply s).1 =
      .ok found) : PagesTile store s name request found := by
  have hshows := shows_of_passes hpasses hconnected
  have hyields (request : Request) := answer_yields store s.records name request
  rw [(hyields _ s hshows).1] at hfound
  have hpaged (offset limit : Value) := Request.answer_paged hfound offset limit
  obtain ⟨filter, order, includes, names, hasks⟩ := Request.asks_of_answer hfound
  obtain ⟨_, hdocs, hdressed⟩ := (Request.answer_eq_ok_iff hasks).mp hfound
  cases hdocs
  constructor
  case sorted =>
    exact ⟨filter, order, includes, names, hasks.turned request.offset request.limit,
      sortDocuments_perm _ _, arranges_sortDocuments, hdressed⟩
  case plain =>
    intro hincludes hselect
    obtain rfl : includes = [] := by
      have hread := hasks.includes_eq
      rw [hincludes] at hread
      exact (Except.ok.inj hread).symm
    obtain rfl : names = none := by
      have hnames := hasks.names_eq
      rw [Request.names, hselect] at hnames
      exact (Except.ok.inj hnames).symm
    refine ⟨filter, order, hasks.filter_eq, hasks.order_eq, ?_⟩
    exact Except.ok.inj (hdressed.symm.trans (mapM_dressed_nil store s.records name _))
  case paged =>
    intro offset limit
    rw [(hyields _ s hshows).1, hpaged]
  case tiled =>
    intro size hsize
    refine ⟨(List.range (pageCount size found)).map (pageOf size found), ?_, ?_, ?_⟩
    · intro page hpage
      obtain ⟨number, hnumber, rfl⟩ := List.mem_map.mp hpage
      rw [Ne, pageOf_eq_nil_iff hsize, Nat.not_le]
      exact List.mem_range.mp hnumber
    · rw [flatten_pagesOf, List.take_of_length_le]
      have hlast := (pageOf_eq_nil_iff hsize).mpr (Nat.le_refl (pageCount size found))
      simpa [pageOf, Nat.ne_of_gt hsize] using hlast
    · have hpages (number : Nat) : Yields (State.Shows s.records) (store.findAll name
          { request with offset := .int (number * size : Nat), limit := .int size })
          (.ok (pageOf size found number)) :=
        (hyields _).of_eq ((hpaged _ _).trans (paginate_pageOf hsize found number))
      rw [attemptAll_yields hpages _ hshows, List.length_map, List.length_range, List.range_succ,
        List.map_append, List.map_append, List.map_map]
      have hlast := (pageOf_eq_nil_iff hsize).mpr (Nat.le_refl (pageCount size found))
      simp [hlast, Function.comp_def]

/-- The blog with two tags more. -/
def severalTags : State :=
  (((storeHost blog).call (.create "Tag" (.object []))).apply
    (((storeHost blog).call (.create "Tag" (.object []))).apply taggedBlog).2).2

/-- A request for all tags, the latest first. -/
def latestTags : Request :=
  { order := .text "-_id" }

theorem pages_tile_severalTags :
    (storeHost blog).Passes State.IsNew severalTags ∧ severalTags.isConnected = true ∧
      PagesTile blog severalTags "Tag" latestTags
        [(bare 5).formatted, (bare 4).formatted, (bare 2).formatted] := by
  have hpasses : (storeHost blog).Passes State.IsNew severalTags :=
    ((Host.Passes.of_reachable taggedBlog_reachable).call _).call _
  exact ⟨hpasses, rfl, pages_tile blog severalTags hpasses rfl "Tag" latestTags _ (by rfl)⟩

end Store

end Docbase
