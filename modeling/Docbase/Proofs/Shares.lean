import Docbase.Proofs.Decomposition
import Mathlib.Data.List.Forall2
import Mathlib.Data.List.Induction

/-! # What stands under a name

Several ways are followed one after the other, and each finds what those before it have embedded.
What stands under a name in the end comes from the ways that begin with the name: what they start
from, with all that is left of them embedded in it. For this no way may be followed by one that it
goes on from, and no name may be a key that a relation is loaded by.
-/

namespace Docbase

open Effect Script Validated

theorem Value.eq_null_of_isNull {v : Value} (h : v.isNull = true) : v = .null := by
  cases v with
  | null => rfl
  | _ => cases h

namespace Relations

/-! ## Documents in a value -/

section

variable {f g : Document → Except Fault Document} {v w : Value}

theorem mapM_eq_ok_iff_forall₂ {ε α β : Type} {f : α → Except ε β} {items : List α}
    {results : List β} :
    items.mapM f = .ok results ↔
      List.Forall₂ (fun item result => f item = .ok result) items results := by
  induction items generalizing results with
  | nil =>
      rw [List.mapM_nil, List.forall₂_nil_left_iff]
      exact ⟨fun h => (Except.ok.inj h).symm, fun h => h ▸ rfl⟩
  | cons item rest ih =>
      rw [List.mapM_cons, bind_eq_ok, List.forall₂_cons_left_iff]
      constructor
      · rintro ⟨first, hfirst, hrest⟩
        obtain ⟨others, hothers, hresults⟩ := bind_eq_ok.mp hrest
        exact ⟨first, others, hfirst, ih.mp hothers, (Except.ok.inj hresults).symm⟩
      · rintro ⟨first, others, hfirst, hothers, rfl⟩
        exact ⟨first, hfirst, bind_eq_ok.mpr ⟨others, ih.mpr hothers, rfl⟩⟩

theorem within_eq_ok : within f v = .ok w ↔
    ∃ doc result, Document.ofValue v = .ok doc ∧ f doc = .ok result ∧ .object result = w := by
  rw [within, bind_eq_ok]
  constructor
  · rintro ⟨doc, hdoc, hmade⟩
    obtain ⟨result, hresult, hw⟩ := bind_eq_ok.mp hmade
    exact ⟨doc, result, hdoc, hresult, Except.ok.inj hw⟩
  · rintro ⟨doc, result, hdoc, hresult, rfl⟩
    exact ⟨doc, hdoc, bind_eq_ok.mpr ⟨result, hresult, rfl⟩⟩

/-- What a value has become is nothing, a list or a document, as the value itself. -/
theorem descend_eq_ok : descend f v = .ok w ↔
    (v = .null ∧ w = .null) ∨
      (∃ items results, v = .list items ∧ w = .list results ∧
        List.Forall₂ (fun item result => within f item = .ok result) items results) ∨
      (v.isNull = false ∧ (∀ items, v ≠ .list items) ∧ within f v = .ok w) := by
  cases v with
  | null => simp [descend, eq_comm, Value.isNull]
  | list items =>
      have hitems : descend f (.list items) = .ok w ↔
          ∃ results, items.mapM (within f) = .ok results ∧ .list results = w :=
        map_eq_ok
      rw [hitems]
      simp [mapM_eq_ok_iff_forall₂, Value.isNull]
      tauto
  | _ => simp [descend, Value.isNull]

theorem descend_isNull (h : descend f v = .ok w) : w.isNull = v.isNull := by
  obtain ⟨rfl, rfl⟩ | ⟨items, results, rfl, rfl, -⟩ | ⟨hnull, -, hwithin⟩ := descend_eq_ok.mp h
  · rfl
  · rfl
  · obtain ⟨doc, result, -, -, rfl⟩ := within_eq_ok.mp hwithin
    exact hnull.symm

/-- Going on from what a value has become is going on within it. -/
theorem descend_comp (h : descend f v = .ok w) :
    descend g w = descend (fun doc => f doc >>= g) v := by
  have hwithin {item made : Value} (hitem : within f item = .ok made) :
      within g made = within (fun doc => f doc >>= g) item := by
    obtain ⟨doc, result, hdoc, hresult, rfl⟩ := within_eq_ok.mp hitem
    rw [within_object, within, hdoc]
    change _ = ((f doc >>= g) >>= fun made => Except.ok (Value.object made))
    rw [hresult]
    change _ = (g result >>= fun made => Except.ok (Value.object made))
    cases g result <;> rfl
  obtain ⟨rfl, rfl⟩ | ⟨items, results, rfl, rfl, hitems⟩ | ⟨hnull, hlist, hmade⟩ :=
    descend_eq_ok.mp h
  · rfl
  · have hresults : results.mapM (within g) = items.mapM (within fun doc => f doc >>= g) := by
      clear h
      induction hitems with
      | nil => rfl
      | cons hitem _ ih => rw [List.mapM_cons, List.mapM_cons, hwithin hitem, ih]
    rw [descend, descend, hresults]
  · obtain ⟨doc, result, -, -, rfl⟩ := within_eq_ok.mp hmade
    have hsame := hwithin hmade
    cases v with
    | null => cases hnull
    | list items => exact absurd rfl (hlist items)
    | _ => exact hsame

/-- What is made of documents in two steps without a fault has been made of them in the first. -/
theorem descend_first (h : Answered (descend (fun doc => f doc >>= g) v)) :
    Answered (descend f v) := by
  have hwithin {item made : Value} (hitem : within (fun doc => f doc >>= g) item = .ok made) :
      Answered (within f item) := by
    obtain ⟨doc, result, hdoc, hresult, -⟩ := within_eq_ok.mp hitem
    obtain ⟨between, hbetween, -⟩ := bind_eq_ok.mp hresult
    exact ⟨_, within_eq_ok.mpr ⟨doc, between, hdoc, hbetween, rfl⟩⟩
  obtain ⟨w, hw⟩ := h
  obtain ⟨rfl, -⟩ | ⟨items, results, rfl, -, hitems⟩ | ⟨hnull, hlist, hmade⟩ :=
    descend_eq_ok.mp hw
  · exact ⟨.null, rfl⟩
  · have hall : Answered (items.mapM (within f)) := by
      clear hw
      induction hitems with
      | nil => exact ⟨[], rfl⟩
      | cons hitem _ ih =>
          rw [List.mapM_cons]
          exact (hwithin hitem).bind fun made _ => ih.bind fun others _ => ⟨made :: others, rfl⟩
    exact hall.map Value.list
  · obtain ⟨made, hmade⟩ := hwithin hmade
    exact ⟨made, descend_eq_ok.mpr (.inr (.inr ⟨hnull, hlist, hmade⟩))⟩

theorem eachM_self (h : ∀ doc, f doc = .ok doc) (related : Related) :
    related.eachM f = .ok related := by
  rcases related with (_ | doc) | docs
  · rfl
  · rw [Related.eachM, h]
    rfl
  · have hdocs : docs.mapM f = .ok docs :=
      mapM_eq_ok_iff_forall₂.mpr (List.forall₂_same.mpr fun doc _ => h doc)
    rw [Related.eachM, hdocs]
    rfl

end

/-! ## What is left of ways after their first name -/

/-- What is left of a way that begins with a name. -/
def tail? (name : String) : List String → Option (List String)
  | [] => none
  | head :: rest => if head = name then some rest else none

/-- What is left of the ways that begin with a name. -/
def tails (name : String) (paths : List (List String)) : List (List String) :=
  paths.filterMap (tail? name)

section

variable {name head : String} {paths : List (List String)} {path rest : List String}

theorem tail?_eq_some : tail? name path = some rest ↔ path = name :: rest := by
  cases path with
  | nil => simp [tail?]
  | cons head more => by_cases hhead : head = name <;> simp [tail?, hhead]

theorem mem_tails : rest ∈ tails name paths ↔ name :: rest ∈ paths := by
  simp [tails, List.mem_filterMap, tail?_eq_some]

@[simp]
theorem tails_append (name : String) (paths paths' : List (List String)) :
    tails name (paths ++ paths') = tails name paths ++ tails name paths' :=
  List.filterMap_append

@[simp]
theorem tails_singleton_nil (name : String) : tails name [[]] = [] := rfl

@[simp]
theorem tails_singleton_self (name : String) (rest : List String) :
    tails name [name :: rest] = [rest] := by
  simp [tails, tail?]

theorem tails_singleton_of_ne (h : head ≠ name) (rest : List String) :
    tails name [head :: rest] = [] := by
  simp [tails, tail?, h]

theorem tails_eq_nil {names : List String} (hpaths : ∀ path ∈ paths, path ⊆ names)
    (hname : name ∉ names) : tails name paths = [] := by
  rw [List.eq_nil_iff_forall_not_mem]
  intro rest hrest
  exact hname (hpaths _ (mem_tails.mp hrest) List.mem_cons_self)

/-- No way is followed by one that it goes on from. -/
def Deepening (paths : List (List String)) : Prop :=
  paths.Pairwise fun earlier later => later <+: earlier → later = earlier

theorem Deepening.tails (h : Deepening paths) (name : String) : Deepening (tails name paths) := by
  refine List.Pairwise.filterMap _ ?_ h
  intro earlier later hboth rest hrest rest' hrest' hshorter
  rw [tail?_eq_some] at hrest hrest'
  subst hrest hrest'
  exact (List.cons.inj (hboth (List.cons_prefix_cons.mpr ⟨rfl, hshorter⟩))).2

theorem Deepening.init (h : Deepening (paths ++ [path])) : Deepening paths :=
  (List.pairwise_append.mp h).1

/-- The last way goes on from no earlier one, but may repeat them. -/
theorem Deepening.last (h : Deepening (paths ++ [path])) :
    ∀ earlier ∈ paths, path <+: earlier → path = earlier :=
  fun earlier hearlier => (List.pairwise_append.mp h).2.2 earlier hearlier path (.head _)

end

/-! ## What stands under a name -/

/-- A document with what several ways embed in it, one after the other. -/
def embeddedAll (load : Load) (paths : List (List String)) (resource : String) (doc : Document) :
    Except Fault Document :=
  paths.foldlM (fun doc path => embedded load none path resource doc) doc

/-- What ways with a common first name start from, of which the rest is given: what the relation
leads to if one of them ends there, and what the document holds goes before otherwise. -/
def basis (rests : List (List String)) (doc : Document) (name : String) (related : Related) :
    Value :=
  if rests.contains [] then related.toValue else present doc name related

/-- What a document shows under a name after several ways. -/
def share (load : Load) (paths : List (List String)) (resource : String) (doc : Document)
    (name : String) : Except Fault (Option Value) := do
  match ← load resource doc name with
  | none => return Keyed.get? doc name
  | some (target, related) =>
    let rests := tails name paths
    return some (← descend (embeddedAll load rests target) (basis rests doc name related))

/-- A document shows under every name what the ways that begin with it come to, and what it has
shown before if there are none. -/
structure Spread (load : Load) (paths : List (List String)) (resource : String)
    (doc result : Document) : Prop where
  untouched : ∀ name, tails name paths = [] → Keyed.get? result name = Keyed.get? doc name
  shown : ∀ name, tails name paths ≠ [] →
    share load paths resource doc name = .ok (Keyed.get? result name)

/-- Relations lead where they do whatever a document shows under some names. -/
def Unread (load : Load) (names : List String) : Prop :=
  ∀ resource doc doc' name, name ∈ names →
    (∀ key, key ∉ names → Keyed.get? doc key = Keyed.get? doc' key) →
    load resource doc name = load resource doc' name

section

variable {load : Load} {names : List String} {paths : List (List String)} {resource : String}
  {doc mid result : Document} {name target : String} {rest : List String} {related : Related}

theorem share_eq (h : load resource doc name = .ok (some (target, related)))
    (paths : List (List String)) :
    share load paths resource doc name =
      (descend (embeddedAll load (tails name paths) target)
        (basis (tails name paths) doc name related)).map some := by
  rw [share, h]
  change (descend _ _ >>= fun value => Except.ok (some value)) = _
  cases descend _ _ <;> rfl

theorem share_congr {paths' : List (List String)} (h : tails name paths = tails name paths') :
    share load paths resource doc name = share load paths' resource doc name := by
  rw [share, share, h]

theorem embeddedAll_append (load : Load) (paths paths' : List (List String)) (resource : String) :
    embeddedAll load (paths ++ paths') resource =
      fun doc => embeddedAll load paths resource doc >>= embeddedAll load paths' resource := by
  funext doc
  exact List.foldlM_append

theorem embeddedAll_cons {path : List String} (h : embedded load none path resource doc = .ok mid)
    (paths : List (List String)) :
    embeddedAll load (path :: paths) resource doc = embeddedAll load paths resource mid := by
  rw [embeddedAll, List.foldlM_cons, h]
  rfl

theorem embeddedAll_singleton (load : Load) (path : List String) (resource : String) :
    embeddedAll load [path] resource = embedded load none path resource := by
  funext doc
  exact bind_pure _

/-- Ways without a name embed nothing. -/
theorem embeddedAll_nils (h : ∀ path ∈ paths, path = []) (doc : Document) :
    embeddedAll load paths resource doc = .ok doc := by
  induction paths with
  | nil => rfl
  | cons path rest ih =>
      rw [h path List.mem_cons_self]
      exact ih fun other hother => h other (List.mem_cons_of_mem _ hother)

theorem basis_snoc (h : rest = [] → [] ∈ tails name paths) :
    basis (tails name paths ++ [rest]) doc name related =
      basis (tails name paths) doc name related := by
  have hmem : [] ∈ tails name paths ++ [rest] ↔ [] ∈ tails name paths := by
    rw [List.mem_append, List.mem_singleton]
    exact ⟨fun hboth => hboth.elim id fun hrest => h hrest.symm, Or.inl⟩
  simp only [basis, List.contains_iff_mem, hmem]

theorem isNull_of_basis {rests : List (List String)}
    (h : (basis rests doc name related).isNull = true) : related.toValue.isNull = true := by
  rw [basis, present] at h
  split at h
  next => exact h
  next =>
    split at h
    next => exact h
    next hheld => exact absurd h hheld

theorem embedded_of_some {doc : Document} (h : load resource doc name =
    .ok (some (target, related))) (next : String) (more : List String) :
    embedded load none (name :: next :: more) resource doc =
      (descend (embedded load none (next :: more) target) (present doc name related)).map
        (Keyed.put doc name) := by
  rw [embedded, h]
  change (descend _ _ >>= fun value => pure (Keyed.put doc name value)) = _
  cases descend _ _ <;> rfl

/-- What is embedded along one more way is what all ways together come to under its first name. -/
theorem embedded_snoc (hunread : Unread load names) (hname : name ∈ names)
    (hpaths : ∀ path ∈ paths, path ⊆ names)
    (hlast : ∀ earlier ∈ paths, name :: rest <+: earlier → name :: rest = earlier)
    (hmid : Spread load paths resource doc mid)
    (hload : load resource doc name = .ok (some (target, related))) :
    embedded load none (name :: rest) resource mid =
      (descend (embeddedAll load (tails name paths ++ [rest]) target)
        (basis (tails name paths ++ [rest]) doc name related)).map (Keyed.put mid name) := by
  have hloadMid : load resource mid name = .ok (some (target, related)) := by
    rw [← hload]
    exact hunread resource mid doc name hname fun key hkey =>
      hmid.untouched key (tails_eq_nil hpaths hkey)
  cases rest with
  | nil =>
      -- All of the earlier ways that begin with the name end there, too.
      have hnils : ∀ path ∈ tails name paths ++ [[]], path = [] := by
        intro path hpath
        rcases List.mem_append.mp hpath with hearlier | hnow
        · have hsame := hlast _ (mem_tails.mp hearlier)
            (List.cons_prefix_cons.mpr ⟨rfl, List.nil_prefix⟩)
          exact (List.cons.inj hsame).2.symm
        · exact List.mem_singleton.mp hnow
      have hbasis : basis (tails name paths ++ [[]]) doc name related = related.toValue :=
        if_pos (List.contains_iff_mem.mpr (List.mem_append_right _ (.head _)))
      rw [embedded, hloadMid, hbasis, descend_toValue,
        eachM_self (embeddedAll_nils hnils)]
      rfl
  | cons next more =>
      rw [embedded_of_some hloadMid]
      congr 1
      by_cases htails : tails name paths = []
      · -- This is the first of the ways to begin with the name.
        have hget : mid.get name = doc.get name := by
          rw [Document.get, Document.get, hmid.untouched name htails]
        rw [htails, List.nil_append, embeddedAll_singleton, basis, if_neg (by simp), present,
          present, hget]
      · have hshown := hmid.shown name htails
        rw [share_eq hload] at hshown
        obtain ⟨value, hvalue, hheld⟩ := map_eq_ok.mp hshown
        have hget : mid.get name = value := by
          rw [Document.get, ← hheld]
          rfl
        have hbasis : basis (tails name paths ++ [next :: more]) doc name related =
            basis (tails name paths) doc name related :=
          basis_snoc (by simp)
        rw [hbasis, embeddedAll_append, embeddedAll_singleton, ← descend_comp hvalue, present, hget]
        split
        next hnull =>
          have hrelated := isNull_of_basis ((descend_isNull hvalue).symm.trans hnull)
          rw [Value.eq_null_of_isNull hnull, Value.eq_null_of_isNull hrelated]
        next => rfl

theorem embedded_of_error {fault : Fault} (h : load resource doc name = .error fault)
    (select : Option (List Value)) (rest : List String) :
    embedded load select (name :: rest) resource doc = .error fault := by
  cases rest <;> rw [embedded, h] <;> rfl

theorem embedded_of_none (h : load resource doc name = .ok none) (select : Option (List Value))
    (rest : List String) : embedded load select (name :: rest) resource doc = .ok doc := by
  cases rest <;> rw [embedded, h] <;> rfl

theorem Spread.load_eq (hmid : Spread load paths resource doc mid) (hunread : Unread load names)
    (hpaths : ∀ path ∈ paths, path ⊆ names) (hname : name ∈ names) :
    load resource mid name = load resource doc name :=
  hunread resource mid doc name hname fun _ hkey => hmid.untouched _ (tails_eq_nil hpaths hkey)

/-- One more way changes what stands under its first name, and nothing else. -/
theorem Spread.snoc (hmid : Spread load paths resource doc mid) (hunread : Unread load names)
    (hpaths : ∀ path ∈ paths ++ [name :: rest], path ⊆ names)
    (hdeep : Deepening (paths ++ [name :: rest]))
    (h : embedded load none (name :: rest) resource mid = .ok result) :
    Spread load (paths ++ [name :: rest]) resource doc result := by
  have hname : name ∈ names := hpaths (name :: rest) (by simp) (.head _)
  have hearlier : ∀ path ∈ paths, path ⊆ names := fun path hpath =>
    hpaths path (List.mem_append_left _ hpath)
  have hothers (other : String) (hother : other ≠ name) :
      tails other (paths ++ [name :: rest]) = tails other paths := by
    rw [tails_append, tails_singleton_of_ne hother.symm, List.append_nil]
  suffices hresult : share load (paths ++ [name :: rest]) resource doc name =
      .ok (Keyed.get? result name) ∧
        ∀ other, other ≠ name → Keyed.get? result other = Keyed.get? mid other by
    constructor
    · intro other htails
      have hother : other ≠ name := by
        rintro rfl
        simp at htails
      rw [hresult.2 other hother]
      exact hmid.untouched other (hothers other hother ▸ htails)
    · intro other htails
      by_cases hother : other = name
      · rw [hother]
        exact hresult.1
      · rw [hresult.2 other hother, share_congr (hothers other hother)]
        exact hmid.shown other (hothers other hother ▸ htails)
  cases hload : load resource doc name with
  | error fault =>
      rw [embedded_of_error ((hmid.load_eq hunread hearlier hname).trans hload)] at h
      cases h
  | ok found =>
      rcases found with _ | ⟨target, related⟩
      · rw [embedded_of_none ((hmid.load_eq hunread hearlier hname).trans hload)] at h
        cases h
        have hshare (ways : List (List String)) :
            share load ways resource doc name = .ok (Keyed.get? doc name) := by
          rw [share, hload]
          rfl
        refine ⟨?_, fun _ _ => rfl⟩
        rw [hshare]
        by_cases htails : tails name paths = []
        · rw [hmid.untouched name htails]
        · rw [← hmid.shown name htails, hshare]
      · rw [embedded_snoc hunread hname hearlier hdeep.last hmid hload] at h
        obtain ⟨value, hvalue, rfl⟩ := map_eq_ok.mp h
        refine ⟨?_, fun other hother => Keyed.get?_put_of_ne _ _ hother⟩
        rw [share_eq hload, tails_append, tails_singleton_self, hvalue, Keyed.get?_put_self]
        rfl

/-- What stands under a name after several ways comes from those that begin with it. -/
theorem spread_of_embeddedAll (hunread : Unread load names)
    (hpaths : ∀ path ∈ paths, path ⊆ names) (hdeep : Deepening paths)
    (h : embeddedAll load paths resource doc = .ok result) :
    Spread load paths resource doc result := by
  induction paths using List.reverseRecOn generalizing result with
  | nil =>
      cases h
      exact ⟨fun _ _ => rfl, fun _ hnever => absurd rfl hnever⟩
  | append_singleton paths path ih =>
      rw [embeddedAll_append, embeddedAll_singleton] at h
      obtain ⟨mid, hmid, hresult⟩ := bind_eq_ok.mp h
      have hspread := ih (fun path hpath => hpaths path (List.mem_append_left _ hpath)) hdeep.init
        hmid
      cases path with
      | nil =>
          cases hresult
          have hsame (name : String) : tails name (paths ++ [[]]) = tails name paths := by simp
          constructor
          · intro name htails
            exact hspread.untouched name (hsame name ▸ htails)
          · intro name htails
            rw [share_congr (hsame name)]
            exact hspread.shown name (hsame name ▸ htails)
      | cons name rest => exact hspread.snoc hunread hpaths hdeep hresult

theorem share_init {path : List String} (hdeep : Deepening (paths ++ [path]))
    (htails : tails name paths ≠ [])
    (h : Answered (share load (paths ++ [path]) resource doc name)) :
    Answered (share load paths resource doc name) := by
  by_cases hpath : tails name [path] = []
  · have hsame : tails name (paths ++ [path]) = tails name paths := by
      rw [tails_append, hpath, List.append_nil]
    rw [← share_congr hsame]
    exact h
  · obtain ⟨rest, hrest⟩ := List.exists_mem_of_ne_nil _ hpath
    obtain rfl : name :: rest = path := List.mem_singleton.mp (mem_tails.mp hrest)
    rcases hload : load resource doc name with fault | _ | ⟨target, related⟩
    · rw [share, hload] at h
      cases h.choose_spec
    · rw [share, hload]
      exact ⟨_, rfl⟩
    · -- A way that ends under the name comes first or repeats another one.
      have hends : rest = [] → [] ∈ tails name paths := by
        rintro rfl
        obtain ⟨earlier, hearlier⟩ := List.exists_mem_of_ne_nil _ htails
        have hsame := hdeep.last _ (mem_tails.mp hearlier)
          (List.cons_prefix_cons.mpr ⟨rfl, List.nil_prefix⟩)
        rw [(List.cons.inj hsame).2]
        exact hearlier
      rw [share_eq hload, tails_append, tails_singleton_self, basis_snoc hends,
        embeddedAll_append] at h
      obtain ⟨_, hfound⟩ := h
      obtain ⟨value, hvalue, -⟩ := map_eq_ok.mp hfound
      rw [share_eq hload]
      exact (descend_first ⟨value, hvalue⟩).map _

/-- Several ways are followed without a fault if each of their first names comes to something. -/
theorem answered_of_shares (hunread : Unread load names)
    (hpaths : ∀ path ∈ paths, path ⊆ names) (hdeep : Deepening paths)
    (h : ∀ name, tails name paths ≠ [] → Answered (share load paths resource doc name)) :
    Answered (embeddedAll load paths resource doc) := by
  induction paths using List.reverseRecOn with
  | nil => exact ⟨doc, rfl⟩
  | append_singleton paths path ih =>
      have hearlier : ∀ path ∈ paths, path ⊆ names := fun path hpath =>
        hpaths path (List.mem_append_left _ hpath)
      have hbefore : Answered (embeddedAll load paths resource doc) := by
        refine ih hearlier hdeep.init fun name htails => ?_
        exact share_init hdeep htails (h name (by simp [htails]))
      rw [embeddedAll_append, embeddedAll_singleton]
      refine hbefore.bind fun mid hmid => ?_
      have hspread := spread_of_embeddedAll hunread hearlier hdeep.init hmid
      cases path with
      | nil => exact ⟨mid, rfl⟩
      | cons name rest =>
          have hname : name ∈ names := hpaths (name :: rest) (by simp) (.head _)
          have hshare := h name (by simp)
          cases hload : load resource doc name with
          | error fault =>
              rw [share, hload] at hshare
              cases hshare.choose_spec
          | ok found =>
              rcases found with _ | ⟨target, related⟩
              · rw [embedded_of_none ((hspread.load_eq hunread hearlier hname).trans hload)]
                exact ⟨mid, rfl⟩
              · rw [embedded_snoc hunread hname hearlier hdeep.last hspread hload]
                rw [share_eq hload, tails_append, tails_singleton_self] at hshare
                obtain ⟨_, hfound⟩ := hshare
                obtain ⟨value, hvalue, -⟩ := map_eq_ok.mp hfound
                rw [hvalue]
                exact ⟨_, rfl⟩

end

end Relations

end Docbase
