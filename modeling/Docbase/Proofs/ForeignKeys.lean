import Docbase.Proofs.Related

/-! # Keys and the documents that they name

A key that is no expression of operators leads to the document whose identifier it is, or to none
if there is no such document. One that is an expression never names a document, and yet it leads to
the first document that the expression selects; and if it cannot be read, nothing is found at all.
-/

namespace Docbase.Relations

open Effect Script Store

/-- What should come of a key: the document that carries it for its identifier, as callers see it,
and none only if the key counts as false or there is no such document. -/
structure NamesOnly (docs : List Document) (key : Value)
    (outcome : Except Fault (Option Document)) : Prop where
  answered : ∃ found, outcome = .ok found
  found : ∀ doc, outcome = .ok (some doc) →
    ∃ target ∈ docs, doc = target.formatted ∧ (target.get idKey).sameKind key = true
  none_iff : outcome = .ok none ↔
    key.isTruthy = false ∨ ∀ target ∈ docs, (target.get idKey).sameKind key = false

variable {docs : List Document} {key : Value}

theorem namesOnly_of_plain (docs : List Document) (hkey : key.isExpression = false) :
    NamesOnly docs key (named docs key) := by
  by_cases htruthy : key.isTruthy = true
  · have hnamed : named docs key =
        .ok ((docs.find? (Filter.equating idKey key).holds).map Document.formatted) := by
      rw [named_of_truthy htruthy, Filter.read_equating Filter.ofKey?_idKey hkey]
      rfl
    rw [hnamed]
    refine ⟨⟨_, rfl⟩, fun doc hdoc => ?_, ?_⟩
    · obtain ⟨target, hfound, rfl⟩ := Option.map_eq_some_iff.mp (Except.ok.inj hdoc)
      have hholds := List.find?_some hfound
      rw [Filter.holds_equating] at hholds
      exact ⟨target, List.mem_of_find?_eq_some hfound, rfl, hholds⟩
    · simp [htruthy]
  · rw [named_of_not_truthy htruthy]
    exact ⟨⟨none, rfl⟩, by simp, by simpa using .inl (by simpa using htruthy)⟩

/-- An identifier, which cannot change, is no object. -/
theorem sameKind_object_of_fixed {id : Value} (hid : id.isMutable = false)
    (fields : List (String × Value)) : id.sameKind (.object fields) = false := by
  cases id with
  | list items => cases hid
  | object fields => cases hid
  | _ => simp [Value.sameKind, Value.eq, Value.isNull, Value.samePlace, Value.place?]

/-- A key does what it should, unless it is an expression that selects a document or cannot be
read. -/
theorem namesOnly_iff (hdocs : ToldApart docs) (hkey : ∀ p, key ≠ .pattern p) :
    NamesOnly docs key (named docs key) ↔ key.isExpression = false ∨
      ∃ filter, Filter.read (.object [(idKey, key)]) = .ok filter ∧
        ∀ doc ∈ docs, filter.holds doc = false := by
  cases hexpression : key.isExpression with
  | false => simp [namesOnly_of_plain docs hexpression]
  | true =>
      obtain ⟨fields, rfl⟩ : ∃ fields, key = .object fields := by
        cases key with
        | object fields => exact ⟨fields, rfl⟩
        | pattern p => exact absurd rfl (hkey p)
        | _ => cases hexpression
      have hnever : ∀ target ∈ docs, (target.get idKey).sameKind (.object fields) = false :=
        fun target htarget => sameKind_object_of_fixed (hdocs.fixed target htarget).2 fields
      have htruthy : (Value.object fields).isTruthy = true := by
        cases fields with
        | nil => cases hexpression
        | cons => rfl
      rw [named_of_truthy htruthy]
      simp only [Bool.true_eq_false, false_or]
      constructor
      · intro hnames
        obtain ⟨found, hfound⟩ := hnames.answered
        cases hread : Filter.read (.object [(idKey, .object fields)]) with
        | error fault => rw [hread] at hfound; cases hfound
        | ok filter =>
            refine ⟨filter, rfl, ?_⟩
            have hnone := hnames.none_iff.mpr (.inr hnever)
            rw [hread] at hnone
            have hlost : docs.find? filter.holds = none :=
              Option.map_eq_none_iff.mp (Except.ok.inj hnone)
            simpa using List.find?_eq_none.mp hlost
      · rintro ⟨filter, hread, hnone⟩
        have hlost : docs.find? filter.holds = none :=
          List.find?_eq_none.mpr (by simpa using hnone)
        rw [hread]
        simp only [Except.map, hlost, Option.map_none]
        exact ⟨⟨none, rfl⟩, by simp, by simpa using .inr hnever⟩

end Docbase.Relations

namespace Docbase.Store

open Effect Script Relations

/-- What it means that in a state keys are resolved as they should, but for expressions. -/
structure ResolvesKeys (store : Store) (s : State) : Prop where
  /-- A relation to one leads to what the key leads to that the record shows. -/
  single : ∀ (resource name : String) (relation : Relation) (doc : Document),
    doc ∈ s.records resource → store.registry.relation? resource name = some relation →
    relation.cardinality = .one →
    ((onBackend (load? store.registry resource doc.formatted name)).apply s).1 =
      (named (s.records relation.target)
        (Document.get doc.formatted relation.keyField)).map fun found =>
          some (relation.target, .one found)
  /-- A relation through a junction leads to what the keys lead to that the rows show. -/
  joined : ∀ (resource name : String) (junction : Junction) (doc : Document),
    doc ∈ s.records resource → store.registry.LeadsThrough resource name junction →
    ((onBackend (load? store.registry resource doc.formatted name)).apply s).1 = do
      let filter ← Filter.read (.object [(junction.localKey, doc.get idKey)])
      let found ← ((s.records junction.junction).filter filter.holds).mapM fun row =>
        named (s.records junction.target) (Document.get row.formatted junction.foreignKey)
      return some (junction.target, .many found.reduceOption)
  /-- A record shows what it holds under a key, but for the key that shows its identifier. -/
  shown : ∀ (resource key : String) (doc : Document), doc ∈ s.records resource →
    Document.get doc.formatted key = if key = publicIdKey then doc.get idKey else doc.get key
  /-- A key leads to the document it names and to no other, unless it is an expression that selects
  a document or cannot be read. -/
  exact : ∀ (target : String) (key : Value), (∀ p, key ≠ .pattern p) →
    (NamesOnly (s.records target) key (named (s.records target) key) ↔
      key.isExpression = false ∨
        ∃ filter, Filter.read (.object [(idKey, key)]) = .ok filter ∧
          ∀ doc ∈ s.records target, filter.holds doc = false)

/-- Whatever a program does to a store, the keys that records hold lead to what they name, and to no
other record unless a key is an expression. -/
theorem resolves_keys (store : Store) (s : State)
    (hpasses : (storeHost store).Passes State.IsNew s) : ResolvesKeys store s := by
  constructor
  case single =>
    intro resource name relation doc hdoc hrelation hone
    have h := shows_of_mem hpasses hdoc
    exact (onBackend_yields (load?_one_yields hrelation hone doc.formatted) s h).1
  case joined =>
    intro resource name junction doc hdoc hthrough
    have h := shows_of_mem hpasses hdoc
    rw [(onBackend_yields (load?_junction_yields hthrough doc.formatted) s h).1,
      Document.identifier_formatted ((h.toldApart resource).fixed doc hdoc).1]
  case shown =>
    intro resource key doc hdoc
    split
    next hkey =>
      rw [hkey]
      exact Document.get_publicIdKey_formatted
        ((toldApart_of_passes hpasses resource).fixed doc hdoc).1
    next hkey => exact doc.get_formatted_of_ne hkey
  case exact =>
    exact fun target key hkey => namesOnly_iff (toldApart_of_passes hpasses target) hkey

/-- The row of a number under the key of a post that spells an expression. -/
def rowOfAnyPost (n : Nat) : Document :=
  [("postId", .object [("$ne", .null)]), ("tagId", .null), ("_id", .text (Identifier.ofNat n))]

theorem blogOf_create_row : (((storeHost blog).call (.create "PostTag"
    (.object [("postId", .object [("$ne", .null)])]))).apply (blogOf 1 [bare 1] [] [])).2 =
      blogOf 2 [bare 1] [] [rowOfAnyPost 2] := rfl

theorem blogOf_anyPost_reachable :
    (storeHost blog).Reachable State.IsNew (blogOf 2 [bare 1] [] [rowOfAnyPost 2]) := by
  have hreachable : (storeHost blog).Reachable State.IsNew _ :=
    Host.reachable_attemptAll ⟨{}, rfl⟩ [.connect, .create "Post" (.object []),
      .create "PostTag" (.object [("postId", .object [("$ne", .null)])])]
  simp only [attemptAll, blogOf_connect, blogOf_create_post, blogOf_create_row] at hreachable
  exact hreachable

theorem resolves_keys_anyPost :
    (storeHost blog).Passes State.IsNew (blogOf 2 [bare 1] [] [rowOfAnyPost 2]) ∧
      ResolvesKeys blog (blogOf 2 [bare 1] [] [rowOfAnyPost 2]) :=
  ⟨.of_reachable blogOf_anyPost_reachable,
    resolves_keys blog _ (.of_reachable blogOf_anyPost_reachable)⟩

/-- A row whose key names no post leads to a post. -/
theorem post_of_unequal_key :
    (storeHost blog).Reachable State.IsNew (blogOf 2 [bare 1] [] [rowOfAnyPost 2]) ∧
      (blogOf 2 [bare 1] [] [rowOfAnyPost 2]).records "PostTag" = [rowOfAnyPost 2] ∧
      ((bare 1).get idKey).sameKind ((rowOfAnyPost 2).get "postId") = false ∧
      ((blog.getRelated "PostTag" ((rowOfAnyPost 2).get idKey) "post").apply
        (blogOf 2 [bare 1] [] [rowOfAnyPost 2])).1 = .ok (.object (bare 1).formatted) :=
  ⟨blogOf_anyPost_reachable, rfl, rfl, rfl⟩

end Docbase.Store
