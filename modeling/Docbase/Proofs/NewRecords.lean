import Docbase.Proofs.FixedKeys
import Docbase.Proofs.ValidSchema

/-! # What a new record holds

A new record is filled in field by field, and then relation by relation. Whatever is given for it,
it has an entry under the key of every field and of every relation that may be left out. Under the
key of a relation that has to be given, it has one only if one is given: nothing asks for it.
-/

namespace Docbase

open Effect Validated

namespace Keyed

variable {α : Type} {entries changes : Keyed α} {key : String}

theorem mem_keys_merge :
    key ∈ (entries.merge changes).keys ↔ key ∈ entries.keys ∨ key ∈ changes.keys := by
  induction changes generalizing entries with
  | nil => simp [merge, keys]
  | cons change rest ih =>
      change key ∈ ((entries.put change.1 change.2).merge rest).keys ↔ _
      rw [ih, mem_keys_put, or_assoc]
      simp [keys]

theorem nodup_keys_merge (h : entries.keys.Nodup) : (entries.merge changes).keys.Nodup := by
  induction changes generalizing entries with
  | nil => exact h
  | cons change rest ih => exact ih (nodup_keys_put h change.1 change.2)

end Keyed

/-- The key under which records keep a field. -/
def Field.storageKey (field : Field) : String :=
  if Store.isIdentifier field then idKey else field.name

namespace Resource

/-- The keys of a record of a resource: that of its identifier, those of its fields, and those of
its relations to one. -/
def keys (resource : Resource) : List String :=
  idKey :: (resource.fields.map Field.storageKey ++ resource.singles.map Relation.keyField)

/-- The keys of a record but for those of relations that have to be given. -/
def assuredKeys (resource : Resource) : List String :=
  idKey :: (resource.fields.map Field.storageKey ++
    (resource.singles.filter fun relation => !relation.isRequired).map Relation.keyField)

variable {resource : Resource} {key : String}

theorem mem_keys_iff : key ∈ resource.keys ↔ key ∈ resource.assuredKeys ∨
    ∃ relation ∈ resource.singles, relation.isRequired = true ∧ relation.keyField = key := by
  simp only [keys, assuredKeys, List.mem_cons, List.mem_append, List.mem_map, List.mem_filter,
    Bool.not_eq_true']
  constructor
  -- Only the relations are told apart, by whether they have to be given.
  · rintro (hid | hfield | ⟨relation, hrelation, rfl⟩)
    · exact .inl (.inl hid)
    · exact .inl (.inr (.inl hfield))
    · cases hrequired : relation.isRequired with
      | false => exact .inl (.inr (.inr ⟨relation, ⟨hrelation, hrequired⟩, rfl⟩))
      | true => exact .inr ⟨relation, hrelation, hrequired, rfl⟩
  · rintro ((hid | hfield | ⟨relation, ⟨hrelation, -⟩, rfl⟩) | ⟨relation, hrelation, -, rfl⟩)
    · exact .inl hid
    · exact .inr (.inl hfield)
    · exact .inr (.inr ⟨relation, hrelation, rfl⟩)
    · exact .inr (.inr ⟨relation, hrelation, rfl⟩)

end Resource

namespace Store

/-- What filling in a field does: a new identifier or the moment is put under its key, or what is
given, or null if nothing has to be given, and otherwise the default. -/
inductive FillsField (data : Value) (doc : Document) (field : Field) : Document → Prop
  | identifier (hidentifier : isIdentifier field = true) (id : String) :
      FillsField data doc field (Keyed.put doc idKey (.text id))
  | moment (hidentifier : isIdentifier field = false) (hmoment : isMoment field = true)
      (now : String) : FillsField data doc field (Keyed.put doc field.name (.text now))
  | given {value : Value} (hidentifier : isIdentifier field = false)
      (hmentions : mentions data field.name = .ok true)
      (hsupplied : supplied data field.name = .ok value) :
      FillsField data doc field (Keyed.put doc field.name value)
  | absent (hidentifier : isIdentifier field = false)
      (hmentions : mentions data field.name = .ok false) (hrequired : field.isRequired = false) :
      FillsField data doc field (Keyed.put doc field.name .null)
  | fallback (hidentifier : isIdentifier field = false)
      (hmentions : mentions data field.name = .ok false) (hrequired : field.isRequired = true) :
      FillsField data doc field (Keyed.put doc field.name (field.default?.getD .null))

theorem fillsField_of_eq_ok {data : Value} {now : String} {doc filled : Document} {field : Field}
    {around : Surroundings} (h : ((fillField data now doc field).apply around).1 = .ok filled) :
    FillsField data doc field filled := by
  rw [fillField] at h
  split at h
  next hidentifier =>
    cases h
    exact .identifier hidentifier _
  next hidentifier =>
    rw [Bool.not_eq_true] at hidentifier
    split at h
    next hmoment =>
      cases h
      exact .moment hidentifier hmoment now
    next =>
      rw [apply_bind, apply_ofExcept] at h
      cases hmentions : mentions data field.name with
      | error fault => rw [hmentions] at h; cases h
      | ok given =>
          rw [hmentions] at h
          cases given with
          | true =>
              simp only [↓reduceIte, apply_bind, apply_ofExcept] at h
              cases hsupplied : supplied data field.name with
              | error fault => rw [hsupplied] at h; cases h
              | ok value =>
                  rw [hsupplied] at h
                  cases h
                  exact .given hidentifier hmentions hsupplied
          | false =>
              simp only [Bool.false_eq_true, ↓reduceIte, Bool.not_eq_true'] at h
              split at h
              next hrequired => cases h; exact .absent hidentifier hmentions hrequired
              next hrequired =>
                cases h
                exact .fallback hidentifier hmentions (by simpa using hrequired)

/-- Filling in a field puts something under its key. -/
theorem fillField_eq_put {data : Value} {now : String} {doc filled : Document} {field : Field}
    {around : Surroundings} (h : ((fillField data now doc field).apply around).1 = .ok filled) :
    ∃ value, filled = Keyed.put doc field.storageKey value := by
  unfold Field.storageKey
  cases fillsField_of_eq_ok h with
  | identifier hidentifier => exact ⟨_, by rw [if_pos hidentifier]⟩
  | moment hidentifier | given hidentifier | absent hidentifier | fallback hidentifier =>
      exact ⟨_, by rw [if_neg (by simp [hidentifier])]⟩

/-- Filling in the fields puts something under each of their keys, one after the other. -/
theorem fillFields_eq_merge {data : Value} {now : String} {doc filled : Document}
    {fields : List Field} {around : Surroundings}
    (h : ((fields.foldlM (fillField data now) doc).apply around).1 = .ok filled) :
    ∃ entries : Document, entries.keys = fields.map Field.storageKey ∧
      filled = Keyed.merge doc entries := by
  induction fields generalizing doc around with
  | nil =>
      cases h
      exact ⟨[], rfl, rfl⟩
  | cons field rest ih =>
      rw [List.foldlM_cons, apply_bind] at h
      split at h
      next next after hfirst =>
        obtain ⟨value, rfl⟩ := fillField_eq_put (congrArg Prod.fst hfirst)
        obtain ⟨entries, hkeys, rfl⟩ := ih h
        exact ⟨(field.storageKey, value) :: entries, by simp [Keyed.keys, ← hkeys], rfl⟩
      next => cases h

/-- What filling in the key of a relation does: it puts there what is given, or else null if
nothing has to be given, and otherwise nothing. -/
inductive FillsKey (data : Value) (doc : Document) (relation : Relation) : Document → Prop
  | given {value : Value} (hmentions : mentions data relation.keyField = .ok true)
      (hsupplied : supplied data relation.keyField = .ok value) :
      FillsKey data doc relation (Keyed.put doc relation.keyField value)
  | absent (hmentions : mentions data relation.keyField = .ok false)
      (hrequired : relation.isRequired = false) :
      FillsKey data doc relation (Keyed.put doc relation.keyField .null)
  | missing (hmentions : mentions data relation.keyField = .ok false)
      (hrequired : relation.isRequired = true) : FillsKey data doc relation doc

theorem fillsKey_of_eq_ok {data : Value} {doc filled : Document} {relation : Relation}
    (h : fillKey data doc relation = .ok filled) : FillsKey data doc relation filled := by
  obtain ⟨given, hmentions, h⟩ := bind_eq_ok.mp h
  cases given with
  | true =>
      rw [if_pos rfl] at h
      obtain ⟨value, hsupplied, h⟩ := bind_eq_ok.mp h
      cases h
      exact .given hmentions hsupplied
  | false =>
      simp only [Bool.false_eq_true, ↓reduceIte, Bool.not_eq_true'] at h
      split at h
      next hrequired => cases h; exact .absent hmentions hrequired
      next hrequired => cases h; exact .missing hmentions (by simpa using hrequired)

/-- Filling in a relation changes nothing elsewhere. -/
theorem FillsKey.get?_of_ne {data : Value} {doc filled : Document} {relation : Relation}
    {key : String} (h : FillsKey data doc relation filled) (hne : relation.keyField ≠ key) :
    Keyed.get? filled key = Keyed.get? doc key := by
  cases h with
  | given | absent => exact Keyed.get?_put_of_ne _ _ (Ne.symm hne)
  | missing => rfl

/-- The keys of a new record after its fields, and then its relations, have been filled in. -/
theorem fillKeys_keys {data : Value} {doc filled : Document} {relations : List Relation}
    (h : relations.foldlM (fillKey data) doc = .ok filled) :
    ((Keyed.keys doc).Nodup → (Keyed.keys filled).Nodup) ∧
      ∀ key, key ∈ Keyed.keys filled ↔ key ∈ Keyed.keys doc ∨
        ∃ relation ∈ relations, relation.keyField = key ∧
          (relation.isRequired = false ∨ mentions data key = .ok true) := by
  induction relations generalizing doc with
  | nil =>
      cases h
      simp
  | cons relation rest ih =>
      rw [List.foldlM_cons] at h
      obtain ⟨next, hfirst, h⟩ := bind_eq_ok.mp h
      obtain ⟨hnodup, hkeys⟩ := ih h
      have hmentions {b : Bool} (h : mentions data relation.keyField = .ok b) :
          mentions data relation.keyField = .ok true ↔ b = true := by
        rw [h, Except.ok.injEq]
      cases fillsKey_of_eq_ok hfirst with
      | given hmention | absent hmention =>
          refine ⟨fun hdoc => hnodup (Keyed.nodup_keys_put hdoc _ _), fun key => ?_⟩
          rw [hkeys, Keyed.mem_keys_put]
          simp only [List.mem_cons, exists_eq_or_imp, or_assoc]
          grind
      | missing habsent hrequired =>
          refine ⟨hnodup, fun key => ?_⟩
          rw [hkeys]
          simp only [List.mem_cons, exists_eq_or_imp]
          grind

/-- What is given under the key of a relation is there afterwards. -/
theorem fillKeys_get? {data value : Value} {key : String} {doc filled : Document}
    {relations : List Relation} (hmentions : mentions data key = .ok true)
    (hsupplied : supplied data key = .ok value)
    (h : relations.foldlM (fillKey data) doc = .ok filled)
    (hkey : (∃ relation ∈ relations, relation.keyField = key) ∨
      Keyed.get? doc key = some value) : Keyed.get? filled key = some value := by
  induction relations generalizing doc with
  | nil =>
      cases h
      exact hkey.resolve_left (by simp)
  | cons relation rest ih =>
      rw [List.foldlM_cons] at h
      obtain ⟨next, hfirst, h⟩ := bind_eq_ok.mp h
      refine ih h ?_
      by_cases hsame : relation.keyField = key
      · subst hsame
        refine .inr ?_
        cases fillsKey_of_eq_ok hfirst with
        | given _ hgiven =>
            rw [Keyed.get?_put_self, Except.ok.inj (hgiven.symm.trans hsupplied)]
        | absent habsent => rw [hmentions] at habsent; cases habsent
        | missing habsent => rw [hmentions] at habsent; cases habsent
      · rw [(fillsKey_of_eq_ok hfirst).get?_of_ne hsame]
        simpa [hsame] using hkey

section

variable {resource : Resource} {data : Value} {around : Surroundings} {built : Document}
  (h : ((buildDocument resource data).apply around).1 = .ok built)

include h

/-- A new record is filled in with its fields, and then with the keys of its relations. -/
theorem filledInTurn_of_build : ∃ (now : String) (before : Surroundings) (doc : Document),
    ((resource.fields.foldlM (fillField data now) []).apply before).1 = .ok doc ∧
      resource.singles.foldlM (fillKey data) doc = .ok built := by
  rw [buildDocument, apply_bind] at h
  change (((resource.fields.foldlM (fillField data (Clock.text around.now)) [] >>= fun doc =>
    Effect.ofExcept (resource.singles.foldlM (fillKey data) doc)).apply _).1) = .ok built at h
  rw [apply_bind] at h
  split at h
  next doc after hfields => exact ⟨_, _, doc, congrArg Prod.fst hfields, h⟩
  next => cases h

/-- The document of a new record is that of its fields with the keys of its relations. -/
theorem filled_of_build : ∃ entries : Document,
    entries.keys = resource.fields.map Field.storageKey ∧
    resource.singles.foldlM (fillKey data) (Keyed.ofList entries) = .ok built := by
  obtain ⟨now, before, doc, hfields, hfilled⟩ := filledInTurn_of_build h
  obtain ⟨entries, hkeys, rfl⟩ := fillFields_eq_merge hfields
  exact ⟨entries, hkeys, hfilled⟩

/-- A new record has the keys that are assured, and those of relations that are given. -/
theorem keys_of_build (id : Value) : (Keyed.keys (Keyed.put built idKey id)).Nodup ∧
    ∀ key, key ∈ Keyed.keys (Keyed.put built idKey id) ↔ key ∈ resource.assuredKeys ∨
      ∃ relation ∈ resource.singles, relation.keyField = key ∧ mentions data key = .ok true := by
  obtain ⟨entries, hentries, hfilled⟩ := filled_of_build h
  obtain ⟨hnodup, hkeys⟩ := fillKeys_keys hfilled
  refine ⟨Keyed.nodup_keys_put (hnodup (Keyed.nodup_keys_merge .nil)) _ _, fun key => ?_⟩
  rw [Keyed.mem_keys_put, hkeys, Keyed.ofList, Keyed.mem_keys_merge, hentries]
  simp only [Resource.assuredKeys, List.mem_cons, List.mem_append, List.mem_map, List.mem_filter,
    Bool.not_eq_true', Keyed.keys, List.map_nil, List.not_mem_nil, false_or]
  grind

end

end Store

end Docbase
