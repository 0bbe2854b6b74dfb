import Docbase.Proofs.Converse
import Docbase.Proofs.Shares

/-! # Includes as a set

The order of includes makes no difference, nor does how often each of them is given, and all that
they lead to is there; unless an include is followed by one that it goes on from, or goes by a name
under which a key is kept.
-/

namespace Docbase

open Effect Script Validated

/-- Values that are the same but for the order of the keys in objects. -/
inductive Value.Alike : Value → Value → Prop
  | same (v : Value) : Alike v v
  | list {items items' : List Value} (h : List.Forall₂ Alike items items') :
      Alike (.list items) (.list items')
  | object {fields fields' : List (String × Value)}
      (h : ∀ key, Option.Rel Alike (Keyed.get? fields key) (Keyed.get? fields' key)) :
      Alike (.object fields) (.object fields')

theorem Value.Alike.rel_refl (found : Option Value) : Option.Rel Alike found found := by
  cases found with
  | none => exact .none
  | some v => exact .some (.same v)

theorem Value.Alike.get? {fields fields' : List (String × Value)} {key : String} {v w : Value}
    (h : Alike (.object fields) (.object fields')) (hv : Keyed.get? fields key = some v)
    (hw : Keyed.get? fields' key = some w) : Alike v w := by
  generalize hleft : Value.object fields = left at h
  generalize hright : Value.object fields' = right at h
  cases h with
  | same =>
      obtain rfl := Value.object.inj (hleft.trans hright.symm)
      obtain rfl := Option.some.inj (hv.symm.trans hw)
      exact .same v
  | list => cases hleft
  | object hkeys =>
      cases hleft
      cases hright
      have hrel := hkeys key
      rw [hv, hw] at hrel
      cases hrel with
      | some halike => exact halike

theorem Value.Alike.singleton {v w : Value} (h : Alike (.list [v]) (.list [w])) : Alike v w := by
  generalize hleft : Value.list [v] = left at h
  generalize hright : Value.list [w] = right at h
  cases h with
  | same =>
      obtain rfl := (List.cons.inj (Value.list.inj (hleft.trans hright.symm))).1
      exact .same v
  | object => cases hleft
  | list hitems =>
      cases hleft
      cases hright
      cases hitems with
      | cons halike _ => exact halike

/-- Related documents of which each has become another one. -/
inductive Related.Each (R : Document → Document → Prop) : Related → Related → Prop
  | none : Each R (.one none) (.one none)
  | some {doc made : Document} (h : R doc made) : Each R (.one (some doc)) (.one (some made))
  | many {docs mades : List Document} (h : List.Forall₂ R docs mades) :
      Each R (.many docs) (.many mades)

namespace Relations

section

variable {f g : Document → Except Fault Document} {v w : Value}

theorem descend_alike
    (h : ∀ doc made, f doc = .ok made →
      ∃ made', g doc = .ok made' ∧ Value.Alike (.object made) (.object made'))
    (hv : descend f v = .ok w) : ∃ w', descend g v = .ok w' ∧ Value.Alike w w' := by
  have hwithin {item made : Value} (hitem : within f item = .ok made) :
      ∃ made', within g item = .ok made' ∧ Value.Alike made made' := by
    obtain ⟨doc, result, hdoc, hresult, rfl⟩ := within_eq_ok.mp hitem
    obtain ⟨result', hresult', halike⟩ := h doc result hresult
    exact ⟨_, within_eq_ok.mpr ⟨doc, result', hdoc, hresult', rfl⟩, halike⟩
  obtain ⟨rfl, rfl⟩ | ⟨items, results, rfl, rfl, hitems⟩ | ⟨hnull, hlist, hmade⟩ :=
    descend_eq_ok.mp hv
  · exact ⟨.null, rfl, .same _⟩
  · have hall : ∃ results', List.Forall₂ (fun item result => within g item = .ok result) items
        results' ∧ List.Forall₂ Value.Alike results results' := by
      clear hv
      induction hitems with
      | nil => exact ⟨[], .nil, .nil⟩
      | cons hitem _ ih =>
          obtain ⟨made', hmade', halike⟩ := hwithin hitem
          obtain ⟨others, hothers, hrest⟩ := ih
          exact ⟨made' :: others, .cons hmade' hothers, .cons halike hrest⟩
    obtain ⟨results', hresults', halike⟩ := hall
    exact ⟨.list results', descend_eq_ok.mpr (.inr (.inl ⟨_, _, rfl, rfl, hresults'⟩)),
      .list halike⟩
  · obtain ⟨made', hmade', halike⟩ := hwithin hmade
    exact ⟨made', descend_eq_ok.mpr (.inr (.inr ⟨hnull, hlist, hmade'⟩)), halike⟩

theorem each_of_eachM {R : Document → Document → Prop} {related shown : Related}
    (h : related.eachM f = .ok shown)
    (hmade : ∀ doc ∈ related.docs, ∀ made, f doc = .ok made → R doc made) :
    related.Each R shown := by
  rcases related with (_ | doc) | docs
  · cases h
    exact .none
  · obtain ⟨made, hdoc, rfl⟩ := map_eq_ok.mp h
    exact .some (hmade doc (by simp [Related.docs]) made hdoc)
  · obtain ⟨mades, hdocs, rfl⟩ := map_eq_ok.mp h
    have hall := mapM_eq_ok_iff_forall₂.mp hdocs
    refine .many ?_
    clear hdocs h
    induction hall with
    | nil => exact .nil
    | cons hfirst _ ih =>
        refine .cons (hmade _ (.head _) _ hfirst) (ih fun doc hdoc => ?_)
        exact hmade doc (List.mem_cons_of_mem _ hdoc)

end

/-- What is there of a way in a document that it was embedded in: the documents that its first
relation leads to, each with all that it has under other names than some, and in each of them what
is there of the rest of the way. -/
def Filled (load : Load) (names : List String) :
    List String → String → Document → Document → Prop
  | [], _, doc, result => ∀ key, key ∉ names → result.get key = doc.get key
  | name :: rest, resource, doc, result =>
    (∀ key, key ∉ names → result.get key = doc.get key) ∧
      ∀ target related, load resource doc name = .ok (some (target, related)) →
        ∃ shown : Related, result.get name = shown.toValue ∧
          related.Each (Filled load names rest target) shown

section

variable {load : Load} {names : List String} {paths paths' : List (List String)}
  {resource : String} {doc result : Document}

/-- Under a name stands what has been made of the same documents along the same ways. -/
theorem share_alike {name : String} {found : Option Value}
    (htails : ∀ rest, rest ∈ tails name paths ↔ rest ∈ tails name paths')
    (hinner : ∀ target inner made, embeddedAll load (tails name paths) target inner = .ok made →
      ∃ made', embeddedAll load (tails name paths') target inner = .ok made' ∧
        Value.Alike (.object made) (.object made'))
    (hshown : share load paths resource doc name = .ok found) :
    ∃ found', share load paths' resource doc name = .ok found' ∧
      Option.Rel Value.Alike found found' := by
  rcases hload : load resource doc name with fault | _ | ⟨target, related⟩
  · rw [share, hload] at hshown
    cases hshown
  · rw [share, hload] at hshown ⊢
    rw [← Except.ok.inj hshown]
    exact ⟨_, rfl, Value.Alike.rel_refl _⟩
  · rw [share_eq hload] at hshown
    obtain ⟨value, hvalue, hheld⟩ := map_eq_ok.mp hshown
    have hbasis : basis (tails name paths') doc name related =
        basis (tails name paths) doc name related := by
      simp only [basis, List.contains_iff_mem, htails]
    obtain ⟨value', hvalue', halike⟩ := descend_alike (hinner target) hvalue
    refine ⟨some value', ?_, ?_⟩
    · rw [share_eq hload, hbasis, hvalue']
      rfl
    · rw [← hheld]
      exact .some halike

/-- Ways that are the same but for their order and number come to the same. -/
theorem embeddedAll_alike (hunread : Unread load names) {bound : Nat}
    (hbound : ∀ path ∈ paths, path.length ≤ bound) (hsame : ∀ path, path ∈ paths ↔ path ∈ paths')
    (hpaths : ∀ path ∈ paths, path ⊆ names) (hdeep : Deepening paths) (hdeep' : Deepening paths')
    (h : embeddedAll load paths resource doc = .ok result) :
    ∃ result', embeddedAll load paths' resource doc = .ok result' ∧
      Value.Alike (.object result) (.object result') := by
  induction bound generalizing paths paths' resource doc result with
  | zero =>
      have hnils : ∀ path ∈ paths, path = [] := fun path hpath =>
        List.eq_nil_of_length_eq_zero (Nat.le_zero.mp (hbound path hpath))
      rw [embeddedAll_nils hnils] at h
      cases h
      have hnils' : ∀ path ∈ paths', path = [] := fun path hpath =>
        hnils path ((hsame path).mpr hpath)
      exact ⟨doc, embeddedAll_nils hnils' doc, .same _⟩
  | succ bound ih =>
      have hpaths' : ∀ path ∈ paths', path ⊆ names := fun path hpath =>
        hpaths path ((hsame path).mpr hpath)
      have hspread := spread_of_embeddedAll hunread hpaths hdeep h
      have htails (name : String) (rest : List String) :
          rest ∈ tails name paths ↔ rest ∈ tails name paths' := by
        rw [mem_tails, mem_tails, hsame]
      have hempty (name : String) : tails name paths = [] ↔ tails name paths' = [] := by
        simp only [List.eq_nil_iff_forall_not_mem, htails name]
      have hinner (name target : String) (inner made : Document)
          (hmade : embeddedAll load (tails name paths) target inner = .ok made) :
          ∃ made', embeddedAll load (tails name paths') target inner = .ok made' ∧
            Value.Alike (.object made) (.object made') := by
        refine ih ?_ (htails name) ?_ (hdeep.tails name) (hdeep'.tails name) hmade
        · intro rest hrest
          exact Nat.le_of_succ_le_succ (hbound _ (mem_tails.mp hrest))
        · intro rest hrest
          exact (List.cons_subset.mp (hpaths _ (mem_tails.mp hrest))).2
      have hshares (name : String) (hname : tails name paths' ≠ []) :
          ∃ found, share load paths' resource doc name = .ok found ∧
            Option.Rel Value.Alike (Keyed.get? result name) found :=
        share_alike (htails name) (hinner name)
          (hspread.shown name (mt (hempty name).mp hname))
      obtain ⟨result', hresult'⟩ := answered_of_shares hunread hpaths' hdeep' fun name hname =>
        (hshares name hname).imp fun _ hfound => hfound.1
      have hspread' := spread_of_embeddedAll hunread hpaths' hdeep' hresult'
      refine ⟨result', hresult', .object fun key => ?_⟩
      by_cases hkey : tails key paths' = []
      · rw [hspread.untouched key ((hempty key).mpr hkey), hspread'.untouched key hkey]
        exact Value.Alike.rel_refl _
      · obtain ⟨found, hfound, halike⟩ := hshares key hkey
        rw [hspread'.shown key hkey] at hfound
        rw [Except.ok.inj hfound]
        exact halike

/-- What a way leads to is there, as deep as it goes. -/
theorem filled_of_embeddedAll (hunread : Unread load names)
    (hpaths : ∀ path ∈ paths, path ⊆ names) (hdeep : Deepening paths)
    (h : embeddedAll load paths resource doc = .ok result) {path : List String}
    (hpath : path ∈ paths) (hclear : Clear load path resource doc) :
    Filled load names path resource doc result := by
  induction path generalizing paths resource doc result with
  | nil =>
      have hspread := spread_of_embeddedAll hunread hpaths hdeep h
      intro key hkey
      rw [Document.get, Document.get, hspread.untouched key (tails_eq_nil hpaths hkey)]
  | cons name rest ih =>
      have hspread := spread_of_embeddedAll hunread hpaths hdeep h
      have hrest : rest ∈ tails name paths := mem_tails.mpr hpath
      constructor
      · intro key hkey
        rw [Document.get, Document.get, hspread.untouched key (tails_eq_nil hpaths hkey)]
      · intro target related hload
        have hshown := hspread.shown name (List.ne_nil_of_mem hrest)
        rw [share_eq hload] at hshown
        obtain ⟨value, hvalue, hheld⟩ := map_eq_ok.mp hshown
        -- Nothing stands under the name beforehand, or else nothing of it is gone on from.
        have hbasis : basis (tails name paths) doc name related = related.toValue := by
          cases rest with
          | nil => exact if_pos (List.contains_iff_mem.mpr hrest)
          | cons next more =>
              obtain ⟨found, hfound, hon⟩ := hclear
              rw [hload] at hfound
              rw [basis, present, if_pos (hon target related (Except.ok.inj hfound).symm).1,
                ite_self]
        have hinner : ∀ inner ∈ related.docs, Clear load rest target inner := by
          cases rest with
          | nil => exact fun _ _ => trivial
          | cons next more =>
              obtain ⟨found, hfound, hon⟩ := hclear
              rw [hload] at hfound
              exact (hon target related (Except.ok.inj hfound).symm).2
        rw [hbasis, descend_toValue] at hvalue
        obtain ⟨shown, hmade, rfl⟩ := map_eq_ok.mp hvalue
        refine ⟨shown, ?_, each_of_eachM hmade fun inner hmem made hinnerMade => ?_⟩
        · rw [Document.get, ← hheld]
          rfl
        · refine ih (fun rest hrest => ?_) (hdeep.tails name) hinnerMade hrest (hinner inner hmem)
          exact (List.cons_subset.mp (hpaths _ (mem_tails.mp hrest))).2

end

end Relations

/-- None of some names is one that a key is kept under which is read for them: that of the
identifier, or that of a relation of one of these names. -/
structure Registry.KeysApart (registry : Registry) (names : List String) : Prop where
  identifiers : idKey ∉ names ∧ publicIdKey ∉ names
  relations : ∀ resource ∈ registry.schema.resources, ∀ relation ∈ resource.relations,
    relation.cardinality = .one → relation.name ∈ names → relation.keyField ∉ names

theorem Relations.loaded_unread {registry : Registry} {names : List String}
    (h : registry.KeysApart names) (records : String → List Document) :
    Unread (loaded registry records) names := by
  intro resource (doc : Document) (doc' : Document) name hname hsame
  have hget {key : String} (hkey : key ∉ names) : doc.get key = doc'.get key := by
    rw [Document.get, Document.get, hsame key hkey]
  have hidentifier : doc.identifier = doc'.identifier := by
    rw [Document.identifier, Document.identifier, hget h.identifiers.1, hget h.identifiers.2]
  rw [loaded, loaded, hidentifier]
  cases hdeclared : (registry.relation? resource name).filter (·.cardinality = .one) with
  | none => cases registry.inverse? resource name <;> cases registry.junction? resource name <;> rfl
  | some relation =>
      obtain ⟨hrelation, hone⟩ := Option.filter_eq_some_iff.mp hdeclared
      obtain ⟨found, hfound, hmem, rfl⟩ := Registry.mem_of_relation? hrelation
      dsimp only
      rw [hget (h.relations found hfound relation hmem (by simpa using hone) hname)]

namespace Store

/-- The ways that includes go. -/
def waysOf (includes : List Include) : List (List String) :=
  includes.map Include.segments

/-- The names on the ways that includes go. -/
def namesOf (includes : List Include) : List String :=
  (waysOf includes).flatten

section

variable {store : Store} {s : State} {records : String → List Document}

theorem populated_of_unselective (h : s.Shows records) {includes : List Include}
    (hselect : ∀ spec ∈ includes, spec.select = none) (resource : String) (doc : Document) :
    populated store s resource doc includes =
      Relations.embeddedAll (leads store s) (waysOf includes) resource doc := by
  rw [populated_eq store h]
  induction includes generalizing doc with
  | nil => rfl
  | cons spec rest ih =>
      rw [List.foldlM_cons, hselect spec List.mem_cons_self]
      exact bind_congr fun mid =>
        ih (fun other hother => hselect other (List.mem_cons_of_mem _ hother)) mid

end

/-- What it means that includes are a set, and all there: any others that are the same but for
their order and number give the same document, and every way on which nothing is in the way is
there as deep as it goes. -/
structure IncludedAsSet (store : Store) (s : State) (resource : String) (doc : Document)
    (includes includes' : List Include) (result : Document) : Prop where
  same : ∃ result', populated store s resource doc includes' = .ok result' ∧
    Value.Alike (.object result) (.object result')
  filled : ∀ spec ∈ includes, Relations.Clear (leads store s) spec.segments resource doc →
    Relations.Filled (leads store s) (namesOf includes) spec.segments resource doc result

/-- If includes select no fields, deeper ones come after those that they go on from, and no name is
that of a key, then neither their order nor repetitions make a difference, and none is missing. -/
theorem includes_as_set (store : Store) (s : State)
    (hpasses : (storeHost store).Passes State.IsNew s) {resource : String} {doc : Document}
    (hdoc : doc ∈ s.records resource) {includes includes' : List Include}
    (hselect : ∀ spec ∈ includes, spec.select = none)
    (hsame : ∀ spec, spec ∈ includes ↔ spec ∈ includes')
    (hdeep : Relations.Deepening (waysOf includes))
    (hdeep' : Relations.Deepening (waysOf includes'))
    (hkeys : store.registry.KeysApart (namesOf includes)) {result : Document}
    (hresult : populated store s resource doc.formatted includes = .ok result) :
    IncludedAsSet store s resource doc.formatted includes includes' result := by
  have h := shows_of_mem hpasses hdoc
  have hunread : Relations.Unread (leads store s) (namesOf includes) := by
    rw [leads_eq store h]
    exact Relations.loaded_unread hkeys _
  have hways : ∀ path ∈ waysOf includes, path ⊆ namesOf includes := fun path hpath name hname =>
    List.mem_flatten_of_mem hpath hname
  rw [populated_of_unselective h hselect] at hresult
  constructor
  case same =>
    have hselect' : ∀ spec ∈ includes', spec.select = none := fun spec hspec =>
      hselect spec ((hsame spec).mpr hspec)
    have hsameWays (path : List String) : path ∈ waysOf includes ↔ path ∈ waysOf includes' := by
      simp only [waysOf, List.mem_map, hsame]
    have hbound : ∀ path ∈ waysOf includes, path.length ≤ (namesOf includes).length :=
      fun path hpath => (List.sublist_flatten_of_mem hpath).length_le
    rw [populated_of_unselective h hselect']
    exact Relations.embeddedAll_alike hunread hbound hsameWays hways hdeep hdeep' hresult
  case filled =>
    intro spec hspec hclear
    exact Relations.filled_of_embeddedAll hunread hways hdeep hresult (List.mem_map_of_mem hspec)
      hclear

/-- Includes of a post: its tags, the posts of those, and the tags of the rows that join them. -/
def tagIncludes : List Include :=
  [⟨"tags", none⟩, ⟨"postTags.tag", none⟩, ⟨"tags.posts", none⟩]

/-- The same includes in another order, and one of them twice. -/
def tagIncludesAgain : List Include :=
  [⟨"postTags.tag", none⟩, ⟨"tags", none⟩, ⟨"postTags.tag", none⟩, ⟨"tags.posts", none⟩]

theorem waysOf_tagIncludes :
    waysOf tagIncludes = [["tags"], ["postTags", "tag"], ["tags", "posts"]] ∧
      waysOf tagIncludesAgain =
        [["postTags", "tag"], ["tags"], ["postTags", "tag"], ["tags", "posts"]] :=
  ⟨rfl, rfl⟩

theorem mem_tagIncludes_iff (spec : Include) : spec ∈ tagIncludes ↔ spec ∈ tagIncludesAgain := by
  have hmem {a b c : Include} : spec ∈ [a, b, c] ↔ spec ∈ [b, a, b, c] := by
    simp only [List.mem_cons, List.not_mem_nil, or_false]
    tauto
  unfold tagIncludes tagIncludesAgain
  exact hmem

/-- The post with what its includes embed. -/
def taggedPost : Document :=
  Keyed.put
    (Keyed.put (bare 1).formatted "tags"
      (.list [.object (Keyed.put (bare 2).formatted "posts" (.list [.object (bare 1).formatted]))]))
    "postTags"
    (.list [.object (Keyed.put (joiningRow 3).formatted "tag" (.object (bare 2).formatted))])

theorem tagIncludes_select : ∀ spec ∈ tagIncludes, spec.select = none := by
  simp [tagIncludes]

theorem populated_tagIncludes (h : taggedBlog.Shows taggedBlog.records) :
    populated blog taggedBlog "Post" (bare 1).formatted tagIncludes = .ok taggedPost := by
  rw [populated_of_unselective h tagIncludes_select, waysOf_tagIncludes.1, leads_eq blog h]
  rfl

theorem includes_as_set_taggedBlog :
    (storeHost blog).Passes State.IsNew taggedBlog ∧ bare 1 ∈ taggedBlog.records "Post" ∧
      populated blog taggedBlog "Post" (bare 1).formatted tagIncludes = .ok taggedPost ∧
      IncludedAsSet blog taggedBlog "Post" (bare 1).formatted tagIncludes tagIncludesAgain
        taggedPost := by
  have hpasses : (storeHost blog).Passes State.IsNew taggedBlog :=
    .of_reachable taggedBlog_reachable
  have hpost : bare 1 ∈ taggedBlog.records "Post" := .head _
  have hpopulated := populated_tagIncludes (shows_of_mem hpasses hpost)
  refine ⟨hpasses, hpost, hpopulated, includes_as_set blog taggedBlog hpasses hpost
    tagIncludes_select ?hsame ?hdeep ?hdeep' ?hkeys hpopulated⟩
  case hsame =>
    exact mem_tagIncludes_iff
  case hdeep =>
    rw [waysOf_tagIncludes.1, Relations.Deepening]
    decide
  case hdeep' =>
    rw [waysOf_tagIncludes.2, Relations.Deepening]
    decide
  case hkeys =>
    rw [namesOf, waysOf_tagIncludes.1]
    exact ⟨by decide, by decide⟩

/-- What relations lead to in the busy crew. -/
def crewLoad : Relations.Load :=
  Relations.loaded crew.registry busyCrew.records

theorem populated_busyCrew {resource : String} {doc mid result : Document} {first second : String}
    (hfirst : Relations.embedded crewLoad none (Include.segments ⟨first, none⟩) resource doc =
      .ok mid)
    (hsecond : Relations.embedded crewLoad none (Include.segments ⟨second, none⟩) resource mid =
      .ok result) :
    populated crew busyCrew resource doc [⟨first, none⟩, ⟨second, none⟩] = .ok result := by
  have h : busyCrew.Shows busyCrew.records :=
    shows_of_passes (.of_reachable busyCrew_reachable) rfl
  rw [populated_of_unselective h (by simp), leads_eq crew h]
  exact (Relations.embeddedAll_cons hfirst _).trans
    ((Relations.embeddedAll_cons hsecond _).trans rfl)

/-- The user of the busy crew with one task, as it is given, embedded. -/
def userWith (task : Document) : Document :=
  Keyed.put (bare 1).formatted "tasks" (.list [.object task])

/-- The task of the busy crew with something under the name of its key. -/
def taskWith (owner : Value) : Document :=
  Keyed.put (taskOf 2 1).formatted "ownerId" owner

theorem get?_userWith (task : Document) :
    Keyed.get? (userWith task) "tasks" = some (.list [.object task]) :=
  Keyed.get?_put_self _ _ _

theorem get?_taskWith (owner : Value) : Keyed.get? (taskWith owner) "ownerId" = some owner :=
  Keyed.get?_put_self _ _ _

/-- The user with their task, and its owner in turn. -/
def userWithOwner : Document :=
  userWith (taskWith (.object (bare 1).formatted))

theorem embedded_tasks : Relations.embedded crewLoad none ["tasks"] "User" (bare 1).formatted =
    .ok (userWith (taskOf 2 1).formatted) := rfl

theorem embedded_ownerId_of_tasks : Relations.embedded crewLoad none ["tasks", "ownerId"] "User"
    (userWith (taskOf 2 1).formatted) = .ok userWithOwner := rfl

theorem embedded_tasks_ownerId : Relations.embedded crewLoad none ["tasks", "ownerId"] "User"
    (bare 1).formatted = .ok userWithOwner := rfl

theorem embedded_tasks_of_ownerId : Relations.embedded crewLoad none ["tasks"] "User"
    userWithOwner = .ok (userWith (taskOf 2 1).formatted) := rfl

theorem embedded_ownerId : Relations.embedded crewLoad none ["ownerId"] "Task"
    (taskOf 2 1).formatted = .ok (taskWith (.object (bare 1).formatted)) := rfl

theorem embedded_ownerId_again : Relations.embedded crewLoad none ["ownerId"] "Task"
    (taskWith (.object (bare 1).formatted)) = .ok (taskWith .null) := rfl

/-- A shorter include that follows a longer one takes away what that one has embedded, and an
include by the name of its own key finds nothing the second time. -/
theorem includes_taken_away :
    crewSchema.IsValid ∧ (storeHost crew).Reachable State.IsNew busyCrew ∧
      busyCrew.records "User" = [bare 1] ∧ busyCrew.records "Task" = [taskOf 2 1] ∧
      (populated crew busyCrew "User" (bare 1).formatted
          [⟨"tasks", none⟩, ⟨"tasks.ownerId", none⟩] = .ok userWithOwner ∧
        populated crew busyCrew "User" (bare 1).formatted
          [⟨"tasks.ownerId", none⟩, ⟨"tasks", none⟩] = .ok (userWith (taskOf 2 1).formatted) ∧
        ¬Value.Alike (.object userWithOwner) (.object (userWith (taskOf 2 1).formatted))) ∧
      populated crew busyCrew "Task" (taskOf 2 1).formatted [⟨"ownerId", none⟩] =
        .ok (taskWith (.object (bare 1).formatted)) ∧
      populated crew busyCrew "Task" (taskOf 2 1).formatted [⟨"ownerId", none⟩, ⟨"ownerId", none⟩] =
        .ok (taskWith .null) ∧
      ¬Value.Alike (.object (taskWith (.object (bare 1).formatted)))
        (.object (taskWith .null)) := by
  refine ⟨crewSchema_isValid, busyCrew_reachable, rfl, rfl, ⟨?deepened, ?shortened, ?differ⟩,
    ?once, ?twice, ?differToo⟩
  case deepened => exact populated_busyCrew embedded_tasks embedded_ownerId_of_tasks
  case shortened => exact populated_busyCrew embedded_tasks_ownerId embedded_tasks_of_ownerId
  case once => rfl
  case twice => exact populated_busyCrew embedded_ownerId embedded_ownerId_again
  case differ =>
    intro halike
    have htask := (halike.get? (get?_userWith _) (get?_userWith _)).singleton
    have howner : Keyed.get? (taskOf 2 1).formatted "ownerId" =
        some (.text (Identifier.ofNat 1)) := rfl
    cases htask.get? (get?_taskWith _) howner
  case differToo =>
    intro halike
    cases halike.get? (get?_taskWith _) (get?_taskWith _)

end Store

end Docbase
