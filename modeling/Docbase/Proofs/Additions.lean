import Docbase.Proofs.Converse
import Docbase.Proofs.FixedKeys
import Docbase.Proofs.Resolution
import Docbase.Proofs.Shares

/-! # What including adds

To include related records is to put a key into every record that is found, under the first name of
the include, and nothing but that; where no relation of this name is known, it is to do nothing at
all. So which records are found, in which order, and what stands in them under any other name does
not depend on what is included.
-/

namespace Docbase

open Effect Script

instance Registry.decidableKnows (registry : Registry) (resource name : String) :
    Decidable (registry.Knows resource name) :=
  decidable_of_iff _ Relations.knows_iff.symm

/-- A document of a resource has become another one through includes. -/
structure Document.Gains (registry : Registry) (resource : String) (includes : List Include)
    (doc result : Document) : Prop where
  /-- What changes stands under the first name of an include, which is that of a known relation. -/
  changed : ∀ name, Keyed.get? result name ≠ Keyed.get? doc name →
    (∃ spec ∈ includes, spec.head = name) ∧ registry.Knows resource name
  /-- There is a key under the first name of every include, if its relation is known. -/
  present : ∀ spec ∈ includes, registry.Knows resource spec.head →
    spec.head ∈ Keyed.keys result
  /-- The keys that there were stay where they are, and new ones come after them. -/
  keys : Keyed.keys doc <+: Keyed.keys result

namespace Document.Gains

variable {registry : Registry} {resource : String} {doc mid result : Document}

theorem nil (doc : Document) : Gains registry resource [] doc doc where
  changed := fun _ h => absurd rfl h
  present := nofun
  keys := List.prefix_rfl

theorem of_not_knows {spec : Include} (h : ¬registry.Knows resource spec.head) (doc : Document) :
    Gains registry resource [spec] doc doc where
  changed := fun _ h => absurd rfl h
  present := by
    intro other hother hknows
    obtain rfl := List.mem_singleton.mp hother
    exact absurd hknows h
  keys := List.prefix_rfl

theorem put {spec : Include} (h : registry.Knows resource spec.head) (doc : Document)
    (value : Value) : Gains registry resource [spec] doc (Keyed.put doc spec.head value) where
  changed := by
    intro name hname
    obtain rfl : name = spec.head := by
      by_contra hne
      exact hname (Keyed.get?_put_of_ne doc value hne)
    exact ⟨⟨spec, List.mem_singleton_self spec, rfl⟩, h⟩
  present := by
    intro other hother _
    obtain rfl := List.mem_singleton.mp hother
    exact Keyed.mem_keys_put.mpr (.inr rfl)
  keys := by
    by_cases hthere : spec.head ∈ Keyed.keys doc
    · rw [Keyed.keys_put_of_mem value hthere]
    · rw [Keyed.keys_put_of_not_mem value hthere]
      exact List.prefix_append _ _

theorem append {includes more : List Include} (h : Gains registry resource includes doc mid)
    (hmore : Gains registry resource more mid result) :
    Gains registry resource (includes ++ more) doc result where
  changed := by
    intro name hname
    by_cases hmid : Keyed.get? mid name = Keyed.get? doc name
    · obtain ⟨⟨spec, hspec, hhead⟩, hknows⟩ := hmore.changed name (hmid ▸ hname)
      exact ⟨⟨spec, List.mem_append_right _ hspec, hhead⟩, hknows⟩
    · obtain ⟨⟨spec, hspec, hhead⟩, hknows⟩ := h.changed name hmid
      exact ⟨⟨spec, List.mem_append_left _ hspec, hhead⟩, hknows⟩
  present := by
    intro spec hspec hknows
    rcases List.mem_append.mp hspec with hfirst | hsecond
    · exact hmore.keys.subset (h.present spec hfirst hknows)
    · exact hmore.present spec hsecond hknows
  keys := h.keys.trans hmore.keys

end Document.Gains

/-! ## What one include does -/

namespace Relations

variable {registry : Registry} {records : String → List Document} {resource name : String}

/-- A way whose first relation is known puts something under its name. -/
theorem exists_put_of_embedded (h : registry.Knows resource name) {select : Option (List Value)}
    {rest : List String} {doc result : Document}
    (hresult : embedded (loaded registry records) select (name :: rest) resource doc =
      .ok result) : ∃ value, result = Keyed.put doc name value := by
  have hnone : loaded registry records resource doc name ≠ .ok none := (loaded_of_knows h doc).2
  cases rest with
  | nil =>
      obtain ⟨found, hfound, hresult⟩ := Validated.bind_eq_ok.mp hresult
      rcases found with _ | ⟨target, related⟩
      · exact absurd hfound hnone
      · obtain ⟨shown, -, hresult⟩ := Validated.bind_eq_ok.mp hresult
        exact ⟨shown.toValue, (Except.ok.inj hresult).symm⟩
  | cons next more =>
      obtain ⟨found, hfound, hresult⟩ := Validated.bind_eq_ok.mp hresult
      rcases found with _ | ⟨target, related⟩
      · exact absurd hfound hnone
      · obtain ⟨value, -, hresult⟩ := Validated.bind_eq_ok.mp hresult
        exact ⟨value, (Except.ok.inj hresult).symm⟩

/-- A way whose first relation is not known leads nowhere. -/
theorem embedded_of_not_knows (h : ¬registry.Knows resource name) (select : Option (List Value))
    (rest : List String) (doc : Document) :
    embedded (loaded registry records) select (name :: rest) resource doc = .ok doc := by
  have hnone : loaded registry records resource doc name = .ok none := loaded_of_not_knows h doc
  cases rest with
  | nil => rw [embedded, hnone]; rfl
  | cons next more => rw [embedded, hnone]; rfl

theorem gains_of_embedded {spec : Include} {doc result : Document}
    (h : embedded (loaded registry records) spec.select spec.segments resource doc = .ok result) :
    doc.Gains registry resource [spec] result := by
  obtain ⟨rest, hsegments⟩ := spec.exists_segments_eq
  rw [hsegments] at h
  by_cases hknows : registry.Knows resource spec.head
  · obtain ⟨value, rfl⟩ := exists_put_of_embedded hknows h
    exact .put hknows doc value
  · rw [embedded_of_not_knows hknows] at h
    obtain rfl := Except.ok.inj h
    exact .of_not_knows hknows doc

end Relations

namespace Store

variable {store : Store} {s : State} {records : String → List Document} {resource : String}
  {request : Request} {includes : List Include}

/-! ## What several includes do -/

theorem populatedWith_cons (spec : Include) (rest : List Include) {doc mid : Document}
    (h : Relations.embedded (Relations.loaded store.registry records) spec.select spec.segments
      resource doc = .ok mid) :
    store.populatedWith records resource (spec :: rest) doc =
      store.populatedWith records resource rest mid := by
  rw [populatedWith, List.foldlM_cons, h]
  rfl

theorem gains_of_populatedWith {doc result : Document}
    (h : store.populatedWith records resource includes doc = .ok result) :
    doc.Gains store.registry resource includes result := by
  induction includes generalizing doc with
  | nil =>
      obtain rfl := Except.ok.inj h
      exact .nil doc
  | cons spec rest ih =>
      rw [populatedWith, List.foldlM_cons] at h
      obtain ⟨mid, hmid, hrest⟩ := Validated.bind_eq_ok.mp h
      exact (Relations.gains_of_embedded hmid).append (ih hrest)

/-- The includes whose first relations are known. -/
def followed (store : Store) (resource : String) (includes : List Include) : List Include :=
  includes.filter fun spec => store.registry.Knows resource spec.head

/-- The includes that are not followed might as well be absent. -/
theorem populatedWith_followed (includes : List Include) :
    store.populatedWith records resource (store.followed resource includes) =
      store.populatedWith records resource includes := by
  funext doc
  induction includes generalizing doc with
  | nil => rfl
  | cons spec rest ih =>
      obtain ⟨others, hsegments⟩ := spec.exists_segments_eq
      by_cases hknows : store.registry.Knows resource spec.head
      · rw [followed, List.filter_cons_of_pos (by simpa using hknows), populatedWith, populatedWith,
          List.foldlM_cons, List.foldlM_cons]
        exact bind_congr fun mid => ih mid
      · have hskipped : Relations.embedded (Relations.loaded store.registry records) spec.select
            spec.segments resource doc = .ok doc := by
          rw [hsegments, Relations.embedded_of_not_knows hknows]
        rw [followed, List.filter_cons_of_neg (by simpa using hknows),
          populatedWith_cons spec rest hskipped]
        exact ih doc

/-! ## Requests without a selection -/

/-- What it means that including only adds to what is found. -/
structure OnlyAdds (store : Store) (s : State) (resource : String) (request : Request)
    (includes : List Include) (plain found : List Document) : Prop where
  /-- Without includes, documents are found as well. -/
  plain_eq : ((store.findAll resource { request with includes := .null }).apply s).1 = .ok plain
  /-- These are the documents that are found with includes, one by one and in the same order, but
  for what the includes put into them. -/
  gains : List.Forall₂ (Document.Gains store.registry resource includes) plain found
  /-- A relation is known if it leads somewhere, from whatever document. -/
  knows_iff : ∀ doc name, store.registry.Knows resource name ↔
    leads store s resource doc name ≠ .ok none
  /-- Includes of relations that are not known do nothing: others that differ by such ones only come
  to the same. -/
  same : ∀ others includes', Include.readAll others = .ok includes' →
    store.followed resource includes' = store.followed resource includes →
      ((store.findAll resource { request with includes := others }).apply s).1 = .ok found
  /-- The records of all resources stay as they are. -/
  records_eq : ((store.findAll resource request).apply s).2.records = s.records

theorem asks_of_findAll (h : s.Shows records) (hselect : request.select.isTruthy = false)
    {found : List Document} (hfound : ((store.findAll resource request).apply s).1 = .ok found) :
    ∃ filter order includes, request.Asks store resource filter order includes none := by
  rw [(answer_yields store records resource request s h).1] at hfound
  obtain ⟨filter, order, includes, names, hasks⟩ := Request.asks_of_answer hfound
  obtain rfl : names = none := by
    have hnames := hasks.names_eq
    rw [Request.names, hselect] at hnames
    exact (Except.ok.inj hnames).symm
  exact ⟨filter, order, includes, hasks⟩

/-- Includes change neither which documents are found nor their order, and only add to them. -/
theorem including_only_adds (hpasses : (storeHost store).Passes State.IsNew s)
    (hselect : request.select.isTruthy = false) {found : List Document}
    (hfound : ((store.findAll resource request).apply s).1 = .ok found) :
    ∃ includes plain, Include.readAll request.includes = .ok includes ∧
      OnlyAdds store s resource request includes plain found := by
  have h := shows_of_passes hpasses (isConnected_of_ok hfound)
  have hyields (request : Request) := answer_yields store s.records resource request s h
  obtain ⟨filter, order, includes, hasks⟩ := asks_of_findAll h hselect hfound
  have hasks' {others : Value} {includes' : List Include}
      (hothers : Include.readAll others = .ok includes') :
      { request with includes := others }.Asks store resource filter order includes' none :=
    ⟨hasks.resource, hasks.filter_eq, hasks.order_eq, hothers, if_neg (by simp [hselect])⟩
  have hanswer := (hyields request).1.symm.trans hfound
  obtain ⟨docs, hdocs, hdressed⟩ := (Request.answer_eq_ok_iff hasks).mp hanswer
  refine ⟨includes, docs.map Document.formatted, hasks.includes_eq, ?_⟩
  constructor
  case plain_eq =>
    rw [(hyields _).1]
    exact (Request.answer_eq_ok_iff (hasks' rfl)).mpr ⟨docs, hdocs, mapM_dressed_nil _ _ _ docs⟩
  case gains =>
    rw [List.forall₂_map_left_iff]
    refine (Relations.mapM_eq_ok_iff_forall₂.mp hdressed).imp fun doc result hresult => ?_
    obtain ⟨populated, hpopulated, hkept⟩ := Validated.bind_eq_ok.mp hresult
    obtain rfl := Except.ok.inj hkept
    exact gains_of_populatedWith hpopulated
  case knows_iff =>
    intro doc name
    rw [leads_eq store h]
    constructor
    · exact fun hknows => (Relations.loaded_of_knows hknows doc).2
    · exact fun hleads => by_contra fun hknows => hleads (Relations.loaded_of_not_knows hknows doc)
  case same =>
    intro others includes' hothers hfollowed
    have hpopulated : store.populatedWith s.records resource includes' =
        store.populatedWith s.records resource includes := by
      rw [← populatedWith_followed includes', hfollowed, populatedWith_followed]
    have hsame : store.dressed s.records resource includes' none =
        store.dressed s.records resource includes none := by
      funext doc
      rw [dressed, dressed, hpopulated]
    rw [(hyields _).1]
    refine (Request.answer_eq_ok_iff (hasks' hothers)).mpr ⟨docs, hdocs, ?_⟩
    rw [hsame, hdressed]
  case records_eq =>
    exact (hyields request).2.records_eq

/-- A request for all posts with their authors, which there are not, and with their tags and the
posts of those. -/
def postsWithTags : Request where
  includes := .list [.text "authors.name", .text "tags.posts"]

/-- The post with its tag, and in the tag the post. -/
def postWithTags : Document :=
  Keyed.put (bare 1).formatted "tags"
    (.list [.object (Keyed.put (bare 2).formatted "posts" (.list [.object (bare 1).formatted]))])

theorem findAll_postsWithTags :
    ((blog.findAll "Post" postsWithTags).apply taggedBlog).1 = .ok [postWithTags] := by
  have h := shows_of_passes (.of_reachable taggedBlog_reachable) rfl
  have hasks : postsWithTags.Asks blog "Post" [] []
      [⟨"authors.name", none⟩, ⟨"tags.posts", none⟩] none := ⟨rfl, rfl, rfl, rfl, rfl⟩
  have hauthors : Include.segments ⟨"authors.name", none⟩ = ["authors", "name"] := rfl
  have htags : Include.segments ⟨"tags.posts", none⟩ = ["tags", "posts"] := rfl
  have hskipped : Relations.embedded (Relations.loaded blog.registry taggedBlog.records) none
      (Include.segments ⟨"authors.name", none⟩) "Post" (bare 1).formatted =
        .ok (bare 1).formatted := by
    rw [hauthors]
    rfl
  have hfollowed : Relations.embedded (Relations.loaded blog.registry taggedBlog.records) none
      (Include.segments ⟨"tags.posts", none⟩) "Post" (bare 1).formatted = .ok postWithTags := by
    rw [htags]
    rfl
  rw [(answer_yields blog _ "Post" postsWithTags _ h).1]
  refine (Request.answer_eq_ok_iff hasks).mpr ⟨[bare 1], rfl, ?_⟩
  refine Relations.mapM_eq_ok_iff_forall₂.mpr (.cons ?_ .nil)
  rw [dressed, populatedWith_cons ⟨"authors.name", none⟩ _ hskipped,
    populatedWith_cons ⟨"tags.posts", none⟩ _ hfollowed]
  rfl

theorem including_only_adds_taggedBlog :
    (storeHost blog).Passes State.IsNew taggedBlog ∧ postsWithTags.select.isTruthy = false ∧
      ((blog.findAll "Post" postsWithTags).apply taggedBlog).1 = .ok [postWithTags] ∧
      ∃ includes plain, Include.readAll postsWithTags.includes = .ok includes ∧
        OnlyAdds blog taggedBlog "Post" postsWithTags includes plain [postWithTags] := by
  have hpasses : (storeHost blog).Passes State.IsNew taggedBlog :=
    .of_reachable taggedBlog_reachable
  exact ⟨hpasses, rfl, findAll_postsWithTags,
    including_only_adds hpasses rfl findAll_postsWithTags⟩

end Store

end Docbase
