import Docbase.Proofs.Lookup
import Mathlib.Data.List.ReduceOption

/-! # What relations lead to

A relation to one record is resolved through the key that the record holds, and a relation to many
through the keys that other records hold. A key is put into a filter that is read like any other, so
that one that spells an expression of operators leads to whatever the expression selects.
-/

namespace Docbase

open Effect Script

namespace Document

theorem get_formatted_of_ne (doc : Document) {key : String} (hkey : key ≠ publicIdKey) :
    Document.get doc.formatted key = doc.get key := by
  unfold formatted
  split
  next => rfl
  next => simp [Document.get, Keyed.get?_put_of_ne _ _ hkey]

theorem get_publicIdKey_formatted {doc : Document} (hid : (doc.get idKey).isTruthy = true) :
    Document.get doc.formatted publicIdKey = doc.get idKey := by
  unfold formatted
  split
  next hnull =>
    cases hvalue : doc.get idKey <;> rw [hvalue] at hnull hid <;> cases hnull
    cases hid
  next => simp [Document.get, Keyed.get?_put_self]

theorem identifier_formatted {doc : Document} (hid : (doc.get idKey).isTruthy = true) :
    Document.identifier doc.formatted = doc.get idKey := by
  rw [identifier, get_idKey_formatted, if_pos hid]

end Document

namespace Registry

/-- A relation of a resource leads through a junction to many records of another one. -/
structure LeadsThrough (registry : Registry) (resource name : String) (junction : Junction) :
    Prop where
  notOne : ∀ relation, registry.relation? resource name = some relation →
    relation.cardinality ≠ .one
  notInverse : registry.inverse? resource name = none
  found : registry.junction? resource name = some junction

/-- A junction refers to both of its sides, and is named after them. -/
theorem LeadsThrough.junction_eq {registry : Registry} {resource name : String}
    {junction : Junction} (h : registry.LeadsThrough resource name junction) :
    registry.has junction.target = true ∧ registry.has junction.junction = true ∧
      junction.junction ∈ [resource ++ junction.target, junction.target ++ resource] ∧
      junction.localKey = registry.junctionKey junction.junction resource ∧
      junction.foreignKey = registry.junctionKey junction.junction junction.target := by
  have hfound := h.found
  unfold Registry.junction? at hfound
  dsimp only at hfound
  split at hfound
  next hhas =>
    obtain ⟨name, hname, rfl⟩ := Option.map_eq_some_iff.mp hfound
    exact ⟨hhas, List.find?_some hname, List.mem_of_find?_eq_some hname, rfl, rfl⟩
  next => cases hfound

end Registry

namespace Relations

variable {records : String → List Document}

/-- What a key leads to among the documents of a resource. -/
def named (docs : List Document) (key : Value) : Except Fault (Option Document) :=
  if key.isTruthy then
    (Filter.read (.object [(idKey, key)])).map fun filter =>
      (docs.find? filter.holds).map Document.formatted
  else .ok none

theorem findById_yields (resource : String) (id : Value) :
    Yields (Connection.Shows records) (findById resource id)
      ((Filter.read (.object [(idKey, id)])).map fun filter =>
        ((records resource).find? filter.holds).map Document.formatted) := by
  refine ((Connection.findOne_yields resource _).bind fun found _ =>
    Yields.pure (found.map Document.formatted)).of_eq ?_
  cases Filter.read (.object [(idKey, id)]) <;> rfl

theorem named_of_truthy {docs : List Document} {key : Value} (hkey : key.isTruthy = true) :
    named docs key = (Filter.read (.object [(idKey, key)])).map fun filter =>
      (docs.find? filter.holds).map Document.formatted :=
  if_pos hkey

theorem named_of_not_truthy {docs : List Document} {key : Value} (hkey : ¬key.isTruthy = true) :
    named docs key = .ok none :=
  if_neg hkey

theorem findWhere_yields (resource field : String) (value : Value) :
    Yields (Connection.Shows records) (findWhere resource field value)
      ((Filter.read (.object [(field, value)])).map fun filter =>
        ((records resource).filter filter.holds).map Document.formatted) := by
  have hfind (filter : Filter) : Yields (Connection.Shows records)
      (do return (← Connection.find resource { filter }).map Document.formatted)
      (.ok (((records resource).filter filter.holds).map Document.formatted)) :=
    (Connection.find_yields resource filter).bind_ok (Yields.pure _)
  refine ((Yields.ofExcept _).bind fun filter _ => hfind filter).of_eq ?_
  cases Filter.read (.object [(field, value)]) <;> rfl

/-- The documents that the rows lead to, in the order of the rows. -/
theorem targets_yields (resource key : String) (rows : List Document) :
    Yields (Connection.Shows records) (targets resource key rows)
      ((rows.mapM fun row => named (records resource) (row.get key)).map List.reduceOption) := by
  induction rows with
  | nil => exact Yields.pure []
  | cons row rest ih =>
      have hgoOn : ∀ found : Option Document, Yields (Connection.Shows records)
          (do return found.toList ++ (← targets resource key rest))
          ((rest.mapM fun row => named (records resource) (row.get key)).map fun others =>
            found.toList ++ others.reduceOption) := by
        intro found
        refine (ih.bind fun others _ => Yields.pure (found.toList ++ others)).of_eq ?_
        cases rest.mapM fun row => named (records resource) (row.get key) <;> rfl
      have hrow : Yields (Connection.Shows records) (targets resource key (row :: rest))
          (named (records resource) (row.get key) >>= fun found =>
            (rest.mapM fun row => named (records resource) (row.get key)).map fun others =>
              found.toList ++ others.reduceOption) := by
        rw [targets]
        split
        next hkey =>
          rw [named_of_truthy hkey]
          exact (findById_yields resource _).bind fun found _ => hgoOn found
        next hkey =>
          rw [named_of_not_truthy hkey]
          exact (Yields.pure none).bind fun found _ => hgoOn found
      refine hrow.of_eq ?_
      rw [List.mapM_cons]
      cases named (records resource) (row.get key) with
      | error fault => rfl
      | ok found =>
          cases rest.mapM fun row => named (records resource) (row.get key) with
          | error fault => rfl
          | ok others => cases found <;> rfl

section

variable {registry : Registry} {resource name : String} {doc : Document}

theorem load?_one_yields {relation : Relation}
    (hrelation : registry.relation? resource name = some relation)
    (hone : relation.cardinality = .one) (doc : Document) :
    Yields (Connection.Shows records) (load? registry resource doc name)
      ((named (records relation.target) (doc.get relation.keyField)).map fun found =>
        some (relation.target, .one found)) := by
  have hdeclared : (registry.relation? resource name).filter (·.cardinality = .one) =
      some relation := by
    simp [hrelation, hone]
  have hfound (found : Option Document) : Yields (Connection.Shows records)
      (pure (some (relation.target, .one found)))
      (.ok (some (relation.target, Related.one found))) :=
    Yields.pure _
  unfold load?
  rw [hdeclared]
  dsimp only
  split
  next hkey =>
    rw [named_of_truthy hkey]
    refine ((findById_yields _ _).bind fun found _ => hfound found).of_eq ?_
    cases Filter.read (.object [(idKey, doc.get relation.keyField)]) <;> rfl
  next hkey =>
    rw [named_of_not_truthy hkey]
    exact (Yields.pure none).bind_ok (hfound none)

variable (hdeclared : ∀ relation, registry.relation? resource name = some relation →
  relation.cardinality ≠ .one)

include hdeclared

theorem filter_relation?_of_not_one :
    (registry.relation? resource name).filter (·.cardinality = .one) = none := by
  cases hrelation : registry.relation? resource name with
  | none => rfl
  | some relation => simp [hdeclared relation hrelation]

theorem load?_inverse_yields {inverse : Inverse}
    (hinverse : registry.inverse? resource name = some inverse) (doc : Document) :
    Yields (Connection.Shows records) (load? registry resource doc name)
      ((Filter.read (.object [(inverse.keyField, doc.identifier)])).map fun filter =>
        some (inverse.source, .many (((records inverse.source).filter filter.holds).map
          Document.formatted))) := by
  unfold load?
  rw [filter_relation?_of_not_one hdeclared, hinverse]
  refine ((findWhere_yields _ _ _).bind fun docs _ =>
    Yields.pure (some (inverse.source, Related.many docs))).of_eq ?_
  cases Filter.read (.object [(inverse.keyField, doc.identifier)]) <;> rfl

omit hdeclared in
theorem load?_junction_yields {junction : Junction}
    (hthrough : registry.LeadsThrough resource name junction) (doc : Document) :
    Yields (Connection.Shows records) (load? registry resource doc name) (do
      let filter ← Filter.read (.object [(junction.localKey, doc.identifier)])
      let found ← ((records junction.junction).filter filter.holds).mapM fun row =>
        named (records junction.target) (Document.get row.formatted junction.foreignKey)
      return some (junction.target, .many found.reduceOption)) := by
  unfold load?
  rw [filter_relation?_of_not_one hthrough.notOne, hthrough.notInverse, hthrough.found]
  refine ((findWhere_yields _ _ _).bind fun rows _ => (targets_yields _ _ rows).bind fun found _ =>
    Yields.pure (some (junction.target, Related.many found))).of_eq ?_
  cases Filter.read (.object [(junction.localKey, doc.identifier)]) with
  | error fault => rfl
  | ok filter =>
      have hmany (found : Except Fault (List (Option Document))) :
          (found.map List.reduceOption >>= fun docs =>
              .ok (some (junction.target, Related.many docs))) =
            found >>= fun found =>
              .ok (some (junction.target, Related.many found.reduceOption)) := by
        cases found <;> rfl
      exact (hmany _).trans (by rw [List.mapM_map]; rfl)

end

end Relations

/-! ## Related records of a store -/

namespace Store

variable {records : String → List Document} {s : State}

/-- What a relation of a record leads to is found by looking up the record and following the
relation from there. -/
theorem apply_getRelated (store : Store) (h : s.Shows records) {resource id relation : String}
    {doc : Document} {related : String × Related}
    (hresource : store.registry.has resource = true) (hdoc : doc ∈ records resource)
    (hid : doc.get idKey = .text id)
    (hload : Yields (Connection.Shows records)
      (Relations.load? store.registry resource doc.formatted relation) (.ok (some related))) :
    ((store.getRelated resource (.text id) relation).apply s).1 = .ok related.2.toValue := by
  have hfind : Yields (State.Shows records) (store.findById resource (.text id))
      (.ok (some doc.formatted)) := by
    obtain ⟨found, hfound⟩ := Option.isSome_iff_exists.mp hresource
    refine (findById_yields store resource (.text id)).of_eq ?_
    rw [Registry.get, hfound, byId, Filter.read_equating Filter.ofKey?_idKey rfl]
    change Except.ok (Option.map _ _) = _
    rw [(h.toldApart resource).find?_text hdoc hid]
    rfl
  have hresolve : Yields (Connection.Shows records)
      (Relations.resolve store.registry resource doc.formatted relation) (.ok related.2) :=
    hload.bind_ok (Yields.pure _)
  have hvalue : Yields (State.Shows records)
      (do return (← onBackend (Relations.resolve store.registry resource doc.formatted
        relation)).toValue) (.ok related.2.toValue) :=
    (onBackend_yields hresolve).bind_ok (Yields.pure _)
  exact ((hfind.bind_ok hvalue) s h).1

/-- The schema of posts and tags, and of rows that join them. -/
def blogSchema : Schema where
  resources :=
    [{ name := "Post",
       relations := [{ name := "tags", target := "Tag", cardinality := .many }] },
      { name := "Tag",
        relations := [{ name := "posts", target := "Post", cardinality := .many }] },
      { name := "PostTag",
        relations :=
          [{ name := "post", target := "Post", foreignKey := some "postId",
             inverse := some "postTags" },
            { name := "tag", target := "Tag", foreignKey := some "tagId",
              inverse := some "tagPosts" }] }]

/-- The store of posts and tags. -/
def blog : Store where
  registry := .ofSchema blogSchema

/-- The state of the blog in which it has some records, and a number of identifiers have been
taken. -/
def blogOf (lastId : Nat) (posts tags rows : List Document) : State :=
  .present 1
    { backend :=
        { database := "docstore", connected := true,
          collections :=
            [("Post", { name := "Post", stored := posts.map Collection.entry }),
              ("Tag", { name := "Tag", stored := tags.map Collection.entry }),
              ("PostTag", { name := "PostTag", stored := rows.map Collection.entry })],
          registered := ["Post", "Tag", "PostTag"] },
      around := { lastId, journal := (blog.connect.apply {}).2.around.journal } }

/-- The record of a number that has nothing but its identifier. -/
def bare (n : Nat) : Document :=
  [("_id", .text (Identifier.ofNat n))]

theorem blogOf_connect : (((storeHost blog).call .connect).apply {}).2 = blogOf 0 [] [] [] := rfl

theorem blogOf_create_post : (((storeHost blog).call (.create "Post" (.object []))).apply
    (blogOf 0 [] [] [])).2 = blogOf 1 [bare 1] [] [] := rfl

end Store

end Docbase
