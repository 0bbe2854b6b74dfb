import Docbase.Proofs.Related
import Docbase.Proofs.ValidSchema

/-! # Relations that lead there and back

A record that holds the identifier of another one in a key is listed by that one under the reverse
relation, and by no other. Two records joined by rows of a junction are listed by each other, as
often as there are rows that join them. For both, the keys have to hold texts or nothing: a text is
no expression of operators, and equal to itself only.
-/

namespace Docbase

open Effect Script

/-- A resource declares a relation to one, and its target has the reverse of that relation under a
name. -/
structure Registry.Reverses (registry : Registry) (source : String) (relation : Relation)
    (inverseName : String) : Prop where
  declared : registry.relation? source relation.name = some relation
  isOne : relation.cardinality = .one
  reversed : ∃ inverse, registry.inverse? relation.target inverseName = some inverse ∧
    inverse.source = source ∧ inverse.relation = relation
  notOne : ∀ other, registry.relation? relation.target inverseName = some other →
    other.cardinality ≠ .one

/-! ## Keys that hold texts -/

/-- Whether a value is a text or the absence of one, as keys of related records are. -/
inductive Value.IsKey : Value → Prop
  | null : IsKey .null
  | text (s : String) : IsKey (.text s)

theorem Value.IsKey.isExpression {key : Value} (h : key.IsKey) : key.isExpression = false := by
  cases h <;> rfl

/-- All of some documents hold texts or nothing under a key. -/
def HoldKeys (docs : List Document) (key : String) : Prop :=
  ∀ doc ∈ docs, (doc.get key).IsKey

/-- All of some documents are identified by texts. -/
def IdentifiedByTexts (docs : List Document) : Prop :=
  ∀ doc ∈ docs, ∃ id, doc.get idKey = .text id

theorem HoldKeys.singleton {doc : Document} {key : String} (h : (doc.get key).IsKey) :
    HoldKeys [doc] key :=
  List.forall_mem_singleton.mpr h

theorem IdentifiedByTexts.singleton {doc : Document} {id : String}
    (h : doc.get idKey = .text id) : IdentifiedByTexts [doc] :=
  List.forall_mem_singleton.mpr ⟨id, h⟩

namespace ToldApart

variable {docs : List Document} {doc target : Document} {id : String} (h : ToldApart docs)

include h

theorem eq_of_formatted_eq (hdoc : doc ∈ docs) (htarget : target ∈ docs)
    (hid : target.get idKey = .text id) (heq : doc.formatted = target.formatted) :
    doc = target := by
  have hsame : doc.get idKey = target.get idKey := by
    rw [← Document.get_idKey_formatted, heq, Document.get_idKey_formatted]
  have hfound := h.find?_text hdoc (hsame.trans hid)
  rw [h.find?_text htarget hid] at hfound
  exact (Option.some.inj hfound).symm

/-- A key that is a text or nothing is looked up among the identifiers. -/
theorem named_of_isKey {key : Value} (hkey : key.IsKey) :
    Relations.named docs key =
      .ok ((docs.find? (Filter.equating idKey key).holds).map Document.formatted) := by
  by_cases htruthy : key.isTruthy = true
  · rw [Relations.named_of_truthy htruthy,
      Filter.read_equating Filter.ofKey?_idKey hkey.isExpression]
    rfl
  · -- No identifier counts as false, so that there is nothing to be found either.
    have hnone : docs.find? (Filter.equating idKey key).holds = none := by
      rw [List.find?_eq_none]
      intro other hother hholds
      rw [Filter.holds_equating] at hholds
      have hid := (h.fixed other hother).1
      cases hkey with
      | null =>
          cases hvalue : other.get idKey <;> rw [hvalue] at hholds hid <;>
            simp [Value.sameKind, Value.eq, Value.isNull, Value.samePlace, Value.place?] at hholds
          cases hid
      | text s =>
          rw [Value.sameKind_text_iff] at hholds
          rw [hholds] at hid
          exact htruthy hid
    rw [Relations.named_of_not_truthy htruthy, hnone]
    rfl

/-- A key leads to the record whose identifier it is. -/
theorem find?_eq_formatted_iff {key : Value} (hkey : key.IsKey) (htarget : target ∈ docs)
    (hid : target.get idKey = .text id) :
    (docs.find? (Filter.equating idKey key).holds).map Document.formatted =
        some target.formatted ↔ key = .text id := by
  constructor
  · intro hfound
    obtain ⟨doc, hdoc, heq⟩ := Option.map_eq_some_iff.mp hfound
    have hsame := h.eq_of_formatted_eq (List.mem_of_find?_eq_some hdoc) htarget hid heq
    have hholds := List.find?_some hdoc
    rw [Filter.holds_equating, hsame, hid] at hholds
    cases hkey with
    | null => cases hholds
    | text s =>
        rw [Value.sameKind_text_iff] at hholds
        exact hholds.symm
  · rintro rfl
    rw [h.find?_text htarget hid]
    rfl

end ToldApart

namespace Store

variable {store : Store} {s : State} {records : String → List Document}

/-- The keys that no relation may be kept under: the one under which identifiers are shown, and
those that filters take for connectives. -/
def reservedKeys : List String :=
  [publicIdKey, Connective.and.key, Connective.or.key]

theorem ofKey?_of_not_reserved {key : String} (hkey : key ∉ reservedKeys) :
    Connective.ofKey? key = none := by
  simp only [reservedKeys, List.mem_cons, List.not_mem_nil, or_false, not_or] at hkey
  simp [Connective.ofKey?, show key ≠ "$and" from hkey.2.1, show key ≠ "$or" from hkey.2.2]

theorem get_formatted_of_not_reserved {key : String} (hkey : key ∉ reservedKeys)
    (doc : Document) : Document.get doc.formatted key = doc.get key := by
  refine doc.get_formatted_of_ne ?_
  rintro rfl
  exact hkey List.mem_cons_self

/-- The documents that hold a text under a key, as callers see them. -/
def holding (docs : List Document) (key id : String) : List Document :=
  (docs.filter (Filter.equating key (.text id)).holds).map Document.formatted

/-! ## Relations to one and their reverse -/

/-- What a relation to one gives: the record that the key names, if there is one. -/
theorem getRelated_one (h : s.Shows records) {source name id : String} {relation : Relation}
    {doc : Document} (hrelation : store.registry.relation? source name = some relation)
    (hone : relation.cardinality = .one) (hkey : relation.keyField ∉ reservedKeys)
    (hdoc : doc ∈ records source) (hid : doc.get idKey = .text id)
    (hvalue : (doc.get relation.keyField).IsKey) :
    ((store.getRelated source (.text id) name).apply s).1 =
      .ok (Related.one (((records relation.target).find?
        (Filter.equating idKey (doc.get relation.keyField)).holds).map
          Document.formatted)).toValue := by
  have hload : Yields (Connection.Shows records) _ _ :=
    Relations.load?_one_yields hrelation hone doc.formatted
  rw [get_formatted_of_not_reserved hkey,
    (h.toldApart relation.target).named_of_isKey hvalue] at hload
  exact apply_getRelated store h (Registry.has_of_relation? hrelation) hdoc hid hload

/-- What the reverse of a relation to one gives: the records that hold the identifier. -/
theorem getRelated_inverse (h : s.Shows records) {target name id : String} {inverse : Inverse}
    {doc : Document} (hresource : store.registry.has target = true)
    (hother : ∀ other, store.registry.relation? target name = some other →
      other.cardinality ≠ .one)
    (hinverse : store.registry.inverse? target name = some inverse)
    (hkey : inverse.keyField ∉ reservedKeys) (hdoc : doc ∈ records target)
    (hid : doc.get idKey = .text id) :
    ((store.getRelated target (.text id) name).apply s).1 =
      .ok (Related.many (holding (records inverse.source) inverse.keyField id)).toValue := by
  have hload : Yields (Connection.Shows records) _ _ :=
    Relations.load?_inverse_yields hother hinverse doc.formatted
  rw [Document.identifier_formatted ((h.toldApart target).fixed doc hdoc).1, hid,
    Filter.read_equating (ofKey?_of_not_reserved hkey) rfl] at hload
  exact apply_getRelated store h hresource hdoc hid hload

theorem mem_holding_iff {docs : List Document} (h : ToldApart docs) {doc : Document}
    {docId : String} (hdoc : doc ∈ docs) (hdocId : doc.get idKey = .text docId)
    {key id : String} : doc.formatted ∈ holding docs key id ↔ doc.get key = .text id := by
  constructor
  · intro hmem
    obtain ⟨other, hother, heq⟩ := List.mem_map.mp hmem
    obtain ⟨hin, hholds⟩ := List.mem_filter.mp hother
    rw [← h.eq_of_formatted_eq hin hdoc hdocId heq]
    exact Filter.holds_text_iff.mp hholds
  · intro hvalue
    exact List.mem_map_of_mem (List.mem_filter.mpr ⟨hdoc, Filter.holds_text_iff.mpr hvalue⟩)

theorem one_toValue_eq_object {found : Option Document} {doc : Document}
    (h : (Related.one found).toValue = .object doc) : found = some doc := by
  cases found with
  | none => cases h
  | some other => cases h; rfl

theorem nodup_holding {docs : List Document} (h : ToldApart docs) (hids : IdentifiedByTexts docs)
    (key id : String) :
    (holding docs key id).Nodup := by
  have hdocs : (docs.map Document.formatted).Nodup := by
    refine List.pairwise_map.mpr (h.distinct.imp_of_mem ?_)
    intro a b ha hb hne heq
    obtain ⟨idOf, hidOf⟩ := hids b hb
    rw [h.eq_of_formatted_eq ha hb hidOf heq, hidOf, Value.eq_text_iff.mpr rfl] at hne
    cases hne
  exact hdocs.sublist (List.filter_sublist.map _)

/-- What it means that a relation to one and its reverse are converse to each other: a record lists
under the reverse, once and in order, those that the relation leads to it from. -/
def Converse (store : Store) (s : State) (source : String) (relation : Relation)
    (inverseName : String) : Prop :=
  ∀ target ∈ s.records relation.target, ∃ listed : List Document,
    ((store.getRelated relation.target (target.get idKey) inverseName).apply s).1 =
      .ok (.list (listed.map Value.object)) ∧
    listed.Sublist ((s.records source).map Document.formatted) ∧ listed.Nodup ∧
    ∀ doc ∈ s.records source, doc.formatted ∈ listed ↔
      ((store.getRelated source (doc.get idKey) relation.name).apply s).1 =
        .ok (.object target.formatted)

/-- A relation to one and the reverse that its target has of it are converse to each other. -/
theorem one_converse_inverse {schema : Schema} (hschema : schema.IsValid)
    (hstore : store.registry = .ofSchema schema)
    (hpasses : (storeHost store).Passes State.IsNew s) {source inverseName : String}
    {relation : Relation} (hreverses : store.registry.Reverses source relation inverseName)
    (hkey : relation.keyField ∉ reservedKeys)
    (hvalues : HoldKeys (s.records source) relation.keyField)
    (hsources : IdentifiedByTexts (s.records source))
    (htargets : IdentifiedByTexts (s.records relation.target)) :
    Converse store s source relation inverseName := by
  obtain ⟨hrelation, hone, ⟨inverse, hinverse, hsource, hsame⟩, hother⟩ := hreverses
  intro target htarget
  have h := shows_of_mem hpasses htarget
  obtain ⟨id, hid⟩ := htargets target htarget
  have hresource : store.registry.has relation.target = true := by
    rw [hstore] at hrelation ⊢
    exact Registry.has_target hschema hrelation
  have hlisted := getRelated_inverse h hresource hother hinverse
    (by rw [Inverse.keyField, hsame]; exact hkey) htarget hid
  rw [hsource, Inverse.keyField, hsame] at hlisted
  refine ⟨holding (s.records source) relation.keyField id, ?_, ?_, ?_, ?_⟩
  · rw [hid]
    exact hlisted
  · exact List.filter_sublist.map _
  · exact nodup_holding (h.toldApart source) hsources _ _
  · intro doc hdoc
    obtain ⟨docId, hdocId⟩ := hsources doc hdoc
    have hvalue := hvalues doc hdoc
    rw [hdocId, getRelated_one h hrelation hone hkey hdoc hdocId hvalue,
      mem_holding_iff (h.toldApart source) hdoc hdocId,
      ← (h.toldApart relation.target).find?_eq_formatted_iff hvalue htarget hid]
    refine ⟨fun hfound => by rw [hfound]; rfl, fun hfound => ?_⟩
    exact one_toValue_eq_object (Except.ok.inj hfound)

/-- The keys that join the post of number one to the tag of number two. -/
def joiningKeys : Document :=
  [("postId", .text (Identifier.ofNat 1)), ("tagId", .text (Identifier.ofNat 2))]

/-- The row of a number that has those keys. -/
def joiningRow (n : Nat) : Document :=
  Keyed.put joiningKeys "_id" (.text (Identifier.ofNat n))

/-- The blog with a post, a tag and a row that joins them. -/
def taggedBlog : State :=
  blogOf 3 [bare 1] [bare 2] [joiningRow 3]

theorem blogOf_create_tag : (((storeHost blog).call (.create "Tag" (.object []))).apply
    (blogOf 1 [bare 1] [] [])).2 = blogOf 2 [bare 1] [bare 2] [] := rfl

theorem blogOf_create_joiningRow : (((storeHost blog).call (.create "PostTag"
    (.object joiningKeys))).apply (blogOf 2 [bare 1] [bare 2] [])).2 = taggedBlog := rfl

theorem taggedBlog_reachable : (storeHost blog).Reachable State.IsNew taggedBlog := by
  have hreachable : (storeHost blog).Reachable State.IsNew _ :=
    Host.reachable_attemptAll ⟨{}, rfl⟩ [.connect, .create "Post" (.object []),
      .create "Tag" (.object []), .create "PostTag" (.object joiningKeys)]
  simp only [attemptAll, blogOf_connect, blogOf_create_post, blogOf_create_tag,
    blogOf_create_joiningRow] at hreachable
  exact hreachable

theorem taggedBlog_records :
    taggedBlog.records "Post" = [bare 1] ∧ taggedBlog.records "Tag" = [bare 2] ∧
      taggedBlog.records "PostTag" = [joiningRow 3] :=
  ⟨rfl, rfl, rfl⟩

theorem blogSchema_isValid : blogSchema.IsValid where
  distinct := by decide
  closed := by decide

/-- The relation of a row to its post. -/
def postOfRow : Relation :=
  { name := "post", target := "Post", foreignKey := some "postId", inverse := some "postTags" }

theorem blog_postTags : blog.registry.Reverses "PostTag" postOfRow "postTags" where
  declared := rfl
  isOne := rfl
  reversed := ⟨⟨"postTags", "PostTag", postOfRow⟩, rfl, rfl, rfl⟩
  notOne := by rintro other ⟨⟩

theorem one_converse_inverse_taggedBlog :
    (storeHost blog).Passes State.IsNew taggedBlog ∧
      Converse blog taggedBlog "PostTag" postOfRow "postTags" := by
  have hpasses : (storeHost blog).Passes State.IsNew taggedBlog :=
    .of_reachable taggedBlog_reachable
  obtain ⟨hposts, -, hrows⟩ := taggedBlog_records
  refine ⟨hpasses, one_converse_inverse blogSchema_isValid rfl hpasses blog_postTags ?hkey
    ?hvalues ?hsources ?htargets⟩
  case hkey => decide
  case hvalues =>
    rw [hrows]
    exact .singleton (.text _)
  case hsources =>
    rw [hrows]
    exact .singleton rfl
  case htargets =>
    rw [postOfRow, hposts]
    exact .singleton rfl

/-! ## Relations to many through a junction -/

open Classical in
/-- How often a document stands in a list. -/
noncomputable def occurrences (doc : Document) (docs : List Document) : Nat :=
  docs.countP fun other => decide (other = doc)

open Classical in
/-- How many rows hold two values under two keys. -/
noncomputable def joining (rows : List Document) (key : String) (value : Value) (key' : String)
    (value' : Value) : Nat :=
  rows.countP fun row => decide (row.get key = value ∧ row.get key' = value')

theorem joining_comm (rows : List Document) (key : String) (value : Value) (key' : String)
    (value' : Value) :
    joining rows key value key' value' = joining rows key' value' key value := by
  exact List.countP_congr fun row _ => by simp [and_comm]

theorem mapM_eq_ok {α β : Type} {f : α → Except Fault β} {g : α → β} {items : List α}
    (h : ∀ item ∈ items, f item = .ok (g item)) : items.mapM f = .ok (items.map g) := by
  induction items with
  | nil => rfl
  | cons item rest ih =>
      rw [List.forall_mem_cons] at h
      rw [List.mapM_cons, h.1, ih h.2]
      rfl

/-- The documents that rows lead to which hold a text under a key, each through another key. -/
def across (rows docs : List Document) (key id key' : String) : List Document :=
  ((rows.filter (Filter.equating key (.text id)).holds).map fun row =>
    (docs.find? (Filter.equating idKey (row.get key')).holds).map Document.formatted).reduceOption

theorem mapM_named {rows docs : List Document} (h : ToldApart docs) {key : String}
    (hkey : key ∉ reservedKeys) (hvalues : HoldKeys rows key)
    (test : Document → Bool) :
    ((rows.filter test).mapM fun row => Relations.named docs (Document.get row.formatted key)) =
      .ok ((rows.filter test).map fun row =>
        (docs.find? (Filter.equating idKey (row.get key)).holds).map Document.formatted) := by
  refine mapM_eq_ok fun row hrow => ?_
  rw [get_formatted_of_not_reserved hkey]
  exact h.named_of_isKey (hvalues row (List.mem_of_mem_filter hrow))

/-- What a relation through a junction gives: for each row of the record, the one at the other end,
if there is one. -/
theorem getRelated_junction (h : s.Shows records) {resource name id : String}
    {junction : Junction} {doc : Document} (hresource : store.registry.has resource = true)
    (hthrough : store.registry.LeadsThrough resource name junction)
    (hlocal : junction.localKey ∉ reservedKeys) (hforeign : junction.foreignKey ∉ reservedKeys)
    (hvalues : HoldKeys (records junction.junction) junction.foreignKey)
    (hdoc : doc ∈ records resource) (hid : doc.get idKey = .text id) :
    ((store.getRelated resource (.text id) name).apply s).1 =
      .ok (Related.many (across (records junction.junction) (records junction.target)
        junction.localKey id junction.foreignKey)).toValue := by
  have hload : Yields (Connection.Shows records) _ _ :=
    Relations.load?_junction_yields hthrough doc.formatted
  rw [Document.identifier_formatted ((h.toldApart resource).fixed doc hdoc).1, hid,
    Filter.read_equating (ofKey?_of_not_reserved hlocal) rfl] at hload
  have hrows := mapM_named (h.toldApart junction.target) hforeign hvalues
    (Filter.equating junction.localKey (.text id)).holds
  have hjoined : Yields (Connection.Shows records)
      (Relations.load? store.registry resource doc.formatted name)
      (.ok (some (junction.target, Related.many (across (records junction.junction)
        (records junction.target) junction.localKey id junction.foreignKey)))) := by
    refine hload.of_eq ?_
    simp only [bind, Except.bind, hrows]
    rfl
  exact apply_getRelated store h hresource hdoc hid hjoined

open Classical in
/-- How often a relation through a junction gives a record is how many rows join the two. -/
theorem occurrences_across {rows docs : List Document} (h : ToldApart docs) {key id key' : String}
    {target : Document} {targetId : String}
    (hvalues : HoldKeys rows key') (htarget : target ∈ docs)
    (hid : target.get idKey = .text targetId) :
    occurrences target.formatted (across rows docs key id key') =
      joining rows key (.text id) key' (.text targetId) := by
  unfold occurrences across joining List.reduceOption
  rw [List.countP_filterMap, List.countP_map, List.countP_filter]
  refine List.countP_congr fun row hrow => ?_
  have hthere (found : Option Document) :
      (found.map fun other => decide (other = target.formatted)).getD false = true ↔
        found = some target.formatted := by
    cases found <;> simp
  simp only [Bool.and_eq_true, decide_eq_true_eq, Filter.holds_text_iff]
  rw [and_comm, ← h.find?_eq_formatted_iff (hvalues row hrow) htarget hid]
  exact and_congr_right fun _ => hthere _

/-- One side of a relation to many: how often a record is listed is how many rows of the junction
join the two. -/
theorem occurrences_getRelated (h : s.Shows records) {near far junction name : String}
    {way : Junction} (hthrough : store.registry.LeadsThrough near name way)
    (hfar : way.target = far) (hnear : store.registry.has near = true)
    (hjunction : ∀ other ∈ [near ++ far, far ++ near], store.registry.has other = true →
      other = junction)
    (hlocal : store.registry.junctionKey junction near ∉ reservedKeys)
    (hforeign : store.registry.junctionKey junction far ∉ reservedKeys)
    (hvalues : HoldKeys (records junction) (store.registry.junctionKey junction far))
    {doc target : Document} {id targetId : String} (hdoc : doc ∈ records near)
    (hid : doc.get idKey = .text id) (htarget : target ∈ records far)
    (htargetId : target.get idKey = .text targetId) :
    ∃ listed : List Document,
      ((store.getRelated near (.text id) name).apply s).1 =
        .ok (.list (listed.map Value.object)) ∧
      occurrences target.formatted listed =
        joining (records junction) (store.registry.junctionKey junction near) (.text id)
          (store.registry.junctionKey junction far) (.text targetId) := by
  obtain ⟨-, hhas, hname, hlocalKey, hforeignKey⟩ := hthrough.junction_eq
  rw [hfar] at hname hforeignKey
  have hsame : way.junction = junction := hjunction _ hname hhas
  rw [hsame] at hlocalKey hforeignKey
  have hgives := getRelated_junction h hnear hthrough (by rw [hlocalKey]; exact hlocal)
    (by rw [hforeignKey]; exact hforeign) (by rw [hsame, hforeignKey]; exact hvalues) hdoc hid
  rw [hsame, hfar, hlocalKey, hforeignKey] at hgives
  exact ⟨_, hgives, occurrences_across (h.toldApart far) hvalues htarget htargetId⟩

/-- What it means that two relations to many through one junction are symmetric: two records list
each other equally often, as often as rows join them. -/
def Symmetric (store : Store) (s : State) (left leftName right rightName junction : String) :
    Prop :=
  ∀ a ∈ s.records left, ∀ b ∈ s.records right, ∃ ofLeft ofRight : List Document,
    ((store.getRelated left (a.get idKey) leftName).apply s).1 =
      .ok (.list (ofLeft.map Value.object)) ∧
    ((store.getRelated right (b.get idKey) rightName).apply s).1 =
      .ok (.list (ofRight.map Value.object)) ∧
    occurrences b.formatted ofLeft = occurrences a.formatted ofRight ∧
    occurrences b.formatted ofLeft = joining (s.records junction)
      (store.registry.junctionKey junction left) (a.get idKey)
      (store.registry.junctionKey junction right) (b.get idKey)

/-- Relations that lead there and back through the one junction of two resources are symmetric. -/
theorem many_to_many_symmetric (hpasses : (storeHost store).Passes State.IsNew s)
    {left leftName right rightName junction : String} {way back : Junction}
    (hjunction : ∀ name ∈ [left ++ right, right ++ left], store.registry.has name = true →
      name = junction)
    (hway : store.registry.LeadsThrough left leftName way) (hwayTarget : way.target = right)
    (hback : store.registry.LeadsThrough right rightName back) (hbackTarget : back.target = left)
    (hleftKey : store.registry.junctionKey junction left ∉ reservedKeys)
    (hrightKey : store.registry.junctionKey junction right ∉ reservedKeys)
    (hleftValues : HoldKeys (s.records junction) (store.registry.junctionKey junction left))
    (hrightValues : HoldKeys (s.records junction) (store.registry.junctionKey junction right))
    (hleftIds : IdentifiedByTexts (s.records left))
    (hrightIds : IdentifiedByTexts (s.records right)) :
    Symmetric store s left leftName right rightName junction := by
  have hleft : store.registry.has left = true := by
    rw [← hbackTarget]
    exact hback.junction_eq.1
  have hright : store.registry.has right = true := by
    rw [← hwayTarget]
    exact hway.junction_eq.1
  have hjunction' : ∀ name ∈ [right ++ left, left ++ right], store.registry.has name = true →
      name = junction := by
    intro name hname
    refine hjunction name ?_
    simpa [or_comm] using hname
  intro a ha b hb
  have h := shows_of_mem hpasses ha
  obtain ⟨id, hid⟩ := hleftIds a ha
  obtain ⟨id', hid'⟩ := hrightIds b hb
  obtain ⟨ofLeft, hofLeft, hcount⟩ := occurrences_getRelated h hway hwayTarget hleft hjunction
    hleftKey hrightKey hrightValues ha hid hb hid'
  obtain ⟨ofRight, hofRight, hcount'⟩ := occurrences_getRelated h hback hbackTarget hright
    hjunction' hrightKey hleftKey hleftValues hb hid' ha hid
  rw [hid, hid']
  rw [joining_comm] at hcount'
  exact ⟨ofLeft, ofRight, hofLeft, hofRight, hcount.trans hcount'.symm, hcount⟩

theorem blog_tags : blog.registry.LeadsThrough "Post" "tags" ⟨"PostTag", "Tag", "postId", "tagId"⟩
    where
  notOne := by rintro relation ⟨⟩; decide
  notInverse := rfl
  found := rfl

theorem blog_posts : blog.registry.LeadsThrough "Tag" "posts" ⟨"PostTag", "Post", "tagId", "postId"⟩
    where
  notOne := by rintro relation ⟨⟩; decide
  notInverse := rfl
  found := rfl

theorem many_to_many_symmetric_taggedBlog :
    (storeHost blog).Passes State.IsNew taggedBlog ∧
      Symmetric blog taggedBlog "Post" "tags" "Tag" "posts" "PostTag" := by
  have hpasses : (storeHost blog).Passes State.IsNew taggedBlog :=
    .of_reachable taggedBlog_reachable
  obtain ⟨hposts, htags, hrows⟩ := taggedBlog_records
  refine ⟨hpasses, many_to_many_symmetric hpasses ?hjunction blog_tags rfl blog_posts rfl
    ?hleftKey ?hrightKey ?hleftValues ?hrightValues ?hleftIds ?hrightIds⟩
  case hjunction => decide
  case hleftKey => decide
  case hrightKey => decide
  case hleftValues =>
    rw [hrows]
    exact .singleton (.text _)
  case hrightValues =>
    rw [hrows]
    exact .singleton (.text _)
  case hleftIds =>
    rw [hposts]
    exact .singleton rfl
  case hrightIds =>
    rw [htags]
    exact .singleton rfl

end Store

end Docbase
