import Docbase.Proofs.NewRecords

/-! # Defaults of new records

A new record holds under the name of a field what is given there. Where nothing is given, the
default that the schema declares is kept only if the field has to be given and no relation that may
be left out has its key there. In all other cases the default is passed over, and the record holds
null.
-/

namespace Docbase

open Effect Script

namespace Field

variable {field : Field}

/-- A field that is neither the identifier nor a moment that is filled in. -/
def IsPlain (field : Field) : Prop :=
  Store.isIdentifier field = false ∧ Store.isMoment field = false

/-- The default that the schema declares, be it null, and null if it declares none. -/
def fallback (field : Field) : Value :=
  field.default?.getD .null

theorem IsPlain.storageKey_eq (h : field.IsPlain) : field.storageKey = field.name := by
  rw [storageKey, if_neg (by simp [h.1])]

/-- Under any key but that of the identifier, whether a field is plain is told by the key. -/
theorem isPlain_of_storageKey_eq {other : Field} (h : field.IsPlain) (hname : field.name ≠ idKey)
    (hkey : other.storageKey = field.name) : other.IsPlain ∧ other.name = field.name := by
  unfold storageKey at hkey
  split at hkey
  next => exact absurd hkey.symm hname
  next hidentifier =>
    refine ⟨⟨by simpa using hidentifier, ?_⟩, hkey⟩
    have hmoment := h.2
    rwa [Store.isMoment, ← hkey] at hmoment

end Field

/-- A relation that may be left out, and has its key under a name. -/
def Relation.clears (name : String) (relation : Relation) : Bool :=
  !relation.isRequired && relation.keyField == name

namespace Resource

/-- A field is the last one that is kept under its key. -/
def Settles (resource : Resource) (field : Field) : Prop :=
  ∃ before after, resource.fields = before ++ field :: after ∧
    ∀ later ∈ after, later.storageKey ≠ field.storageKey

/-- Whether the default of a field is passed over: the field may be left out, or its name is the key
of a relation that may be. -/
def passesOver (resource : Resource) (field : Field) : Bool :=
  !field.isRequired || resource.singles.any (Relation.clears field.name)

/-- Of the fields that are kept under one key, some one is the last. -/
theorem exists_settles {resource : Resource} {field : Field} (h : field ∈ resource.fields) :
    ∃ last, resource.Settles last ∧ last.storageKey = field.storageKey := by
  have hsome : (resource.fields.reverse.find? fun other =>
      other.storageKey == field.storageKey).isSome = true :=
    List.find?_isSome.mpr ⟨field, List.mem_reverse.mpr h, beq_self_eq_true _⟩
  obtain ⟨last, hlast⟩ := Option.isSome_iff_exists.mp hsome
  obtain ⟨hkey, after, before, heq, hafter⟩ := List.find?_eq_some_iff_append.mp hlast
  rw [beq_iff_eq] at hkey
  refine ⟨last, ⟨before.reverse, after.reverse, ?_, fun later hlater => ?_⟩, hkey⟩
  · rw [← List.reverse_reverse resource.fields, heq]
    simp
  · rw [hkey]
    simpa using hafter later (List.mem_reverse.mp hlater)

end Resource

namespace Store

/-- What the schema and the data promise for a field of a new record. -/
def promised (data : Value) (field : Field) : Except Fault Value := do
  if ← mentions data field.name then supplied data field.name else return field.fallback

/-- What a new record is built with for a field. -/
def filling (resource : Resource) (data : Value) (field : Field) : Except Fault Value := do
  if ← mentions data field.name then supplied data field.name
  else return if resource.passesOver field then .null else field.fallback

section

variable {data value : Value} {resource : Resource} {field : Field}

/-- What is promised is kept if something is given, or if there is no default to be passed over. -/
theorem promised_eq_iff (h : filling resource data field = .ok value) :
    promised data field = .ok value ↔ mentions data field.name = .ok true ∨
      resource.passesOver field = false ∨ field.fallback = .null := by
  obtain ⟨given, hmentions, h⟩ := Validated.bind_eq_ok.mp h
  rw [promised, hmentions]
  cases given with
  | true => simpa [bind, Except.bind] using h
  | false =>
      cases h
      cases resource.passesOver field <;> simp [bind, Except.bind, pure, Except.pure]

/-- Where nothing is given, null comes under the key of a relation that may be left out. -/
theorem fillKeys_get?_of_absent {key : String} {doc filled : Document}
    {relations : List Relation} (hmentions : mentions data key = .ok false)
    (h : relations.foldlM (fillKey data) doc = .ok filled) : Keyed.get? filled key =
      if relations.any (Relation.clears key) then some .null else Keyed.get? doc key := by
  induction relations generalizing doc with
  | nil =>
      cases h
      rfl
  | cons relation rest ih =>
      rw [List.foldlM_cons] at h
      obtain ⟨next, hfirst, h⟩ := Validated.bind_eq_ok.mp h
      rw [ih h, List.any_cons, Relation.clears]
      by_cases hsame : relation.keyField = key
      · subst hsame
        cases fillsKey_of_eq_ok hfirst with
        | given hgiven => rw [hmentions] at hgiven; cases hgiven
        | absent _ hrequired => simp [hrequired, Keyed.get?_put_self]
        | missing _ hrequired => simp [hrequired]
      · simp [(fillsKey_of_eq_ok hfirst).get?_of_ne hsame, hsame]

/-- After all fields have been filled in, what the last field of a key put there is still there. -/
theorem fillsField_of_settles {now : String} {before : Surroundings} {doc : Document}
    (hsettles : resource.Settles field)
    (h : ((resource.fields.foldlM (fillField data now) []).apply before).1 = .ok doc) :
    ∃ start filled, FillsField data start field filled ∧
      Keyed.get? doc field.storageKey = Keyed.get? filled field.storageKey := by
  obtain ⟨earlier, later, heq, hlater⟩ := hsettles
  rw [heq, List.foldlM_append, apply_bind] at h
  split at h
  next start middle hstart =>
    rw [List.foldlM_cons, apply_bind] at h
    split at h
    next filled after hfilled =>
      obtain ⟨entries, hkeys, rfl⟩ := fillFields_eq_merge h
      refine ⟨start, filled, fillsField_of_eq_ok (congrArg Prod.fst hfilled), ?_⟩
      refine Keyed.get?_merge_of_not_mem ?_
      rw [hkeys, List.mem_map]
      rintro ⟨other, hother, hkey⟩
      exact hlater other hother hkey
    next => cases h
  next => cases h

theorem get?_of_build {around : Surroundings} {built : Document}
    (h : ((buildDocument resource data).apply around).1 = .ok built)
    (hsettles : resource.Settles field) (hplain : field.IsPlain) :
    ∃ value, filling resource data field = .ok value ∧
      Keyed.get? built field.name = some value := by
  obtain ⟨now, before, doc, hfields, hbuilt⟩ := filledInTurn_of_build h
  obtain ⟨start, filled, hfills, hget⟩ := fillsField_of_settles hsettles hfields
  rw [hplain.storageKey_eq] at hget
  have hidentifier := hplain.1
  cases hfills with
  | identifier h => rw [hidentifier] at h; cases h
  | moment _ h => rw [hplain.2] at h; cases h
  | given _ hmentions hsupplied =>
      rw [Keyed.get?_put_self] at hget
      refine ⟨_, ?_, fillKeys_get? hmentions hsupplied hbuilt (.inr hget)⟩
      rw [filling, hmentions]
      exact hsupplied
  | absent _ hmentions hrequired | fallback _ hmentions hrequired =>
      rw [Keyed.get?_put_self] at hget
      rw [fillKeys_get?_of_absent hmentions hbuilt, hget, filling, hmentions]
      refine ⟨_, rfl, ?_⟩
      cases hclears : resource.singles.any (Relation.clears field.name) <;>
        simp [Resource.passesOver, hrequired, hclears, Field.fallback]

end

/-- What it means that in a state a new record holds for its fields what the data and the schema
say. -/
structure FillsFields (store : Store) (s : State) : Prop where
  /-- Under every name but that of the identifier, one of the plain fields is the last. -/
  settled : ∀ (resource : Resource) (field : Field), field ∈ resource.fields → field.IsPlain →
    field.name ≠ idKey →
      ∃ last, resource.Settles last ∧ last.IsPlain ∧ last.name = field.name
  /-- The last field of a name settles what a record that is created holds there, but for an
  identifier that counts as false, which is replaced. That is what was promised for the field
  exactly if something was given, or there is no default to be passed over. -/
  created : ∀ (name : String) (data : Value) (doc : Document) (t : State),
    (store.create name data).apply s = (.ok doc, t) → ∃ resource new,
      store.registry.get name = .ok resource ∧ doc = Document.formatted new ∧
      t.records = Function.update s.records name (s.records name ++ [new]) ∧
      ∀ field : Field, resource.Settles field → field.IsPlain → ∃ value,
        filling resource data field = .ok value ∧
        (Keyed.get? new field.name = some value ↔
          (field.name = idKey → value.isTruthy = true)) ∧
        (promised data field = .ok value ↔ mentions data field.name = .ok true ∨
          resource.passesOver field = false ∨ field.fallback = .null)

/-- What a record holds under a key is what it was built with, but for an identifier that counts as
false. -/
theorem get?_identified_iff {built : Document} {id value : Value} {key : String}
    (hidentifies : Connection.Identifies built id) (hbuilt : Keyed.get? built key = some value) :
    Keyed.get? (Keyed.put built idKey id) key = some value ↔
      (key = idKey → value.isTruthy = true) := by
  by_cases hkey : key = idKey
  · subst hkey
    have hget : built.get idKey = value := by rw [Document.get, hbuilt]; rfl
    rw [Keyed.get?_put_self, Option.some.injEq]
    constructor
    · rintro rfl -
      exact hidentifies.1
    · intro htruthy
      rw [hidentifies.2 (by rw [hget]; exact htruthy rfl), hget]
  · rw [Keyed.get?_put_of_ne _ _ hkey]
    exact iff_of_true hbuilt fun h => absurd h hkey

/-- A new record holds what was given for a field, or else its default, unless the field is passed
over. -/
theorem fills_fields (store : Store) (s : State)
    (hpasses : (storeHost store).Passes State.IsNew s) : FillsFields store s := by
  constructor
  case settled =>
    intro resource field hfield hplain hname
    obtain ⟨last, hsettles, hkey⟩ := Resource.exists_settles hfield
    rw [hplain.storageKey_eq] at hkey
    exact ⟨last, hsettles, Field.isPlain_of_storageKey_eq hplain hname hkey⟩
  case created =>
    intro name data doc t hcreate
    have hshows := shows_of_passes hpasses (isConnected_of_ok (congrArg Prod.fst hcreate))
    obtain ⟨records', ht, built, id, ⟨resource, hresource, hbuilt, -⟩, hidentifies, rfl, rfl⟩ :=
      (create_identifies store hshows name data).of_ok (congrArg Prod.fst hcreate)
    rw [hcreate] at ht
    refine ⟨resource, _, hresource, rfl, ht.records_eq, fun field hsettles hplain => ?_⟩
    obtain ⟨value, hfilling, hget⟩ := get?_of_build hbuilt hsettles hplain
    exact ⟨value, hfilling, get?_identified_iff hidentifies hget, promised_eq_iff hfilling⟩

/-- A stage that may be left out, with a default. -/
def stageField : Field where
  name := "stage"
  kind := .string
  default? := some (.text "new")

/-- An owner that has to be given, with a default. -/
def ownerField : Field where
  name := "ownerId"
  kind := .string
  isRequired := true
  default? := some (.text "u1")

/-- A priority that has to be given, with a default. -/
def priorityField : Field where
  name := "priority"
  kind := .string
  isRequired := true
  default? := some (.text "low")

/-- The resource of jobs, with an owner as a field and as a relation that may be left out. -/
def jobResource : Resource where
  name := "Job"
  fields := [stageField, priorityField, ownerField]
  relations := [{ name := "owner", target := "User" }]

/-- A store of users and their jobs. -/
def jobs : Store where
  registry := .ofSchema { resources := [{ name := "User" }, jobResource] }

/-- The store of jobs after the creation of a job for which something was given. -/
def jobsUnderWay (given : Value) : State :=
  let call op s := ((((storeHost jobs).call op).apply s).2 : State)
  call (.create "Job" given) (call .connect {})

theorem jobsUnderWay_passes (given : Value) :
    (storeHost jobs).Passes State.IsNew (jobsUnderWay given) :=
  ((Host.Passes.start ⟨{}, rfl⟩).call _).call _

theorem fills_fields_jobsUnderWay :
    (storeHost jobs).Passes State.IsNew (jobsUnderWay (.object [])) ∧
      FillsFields jobs (jobsUnderWay (.object [])) :=
  ⟨jobsUnderWay_passes _, fills_fields jobs _ (jobsUnderWay_passes _)⟩

/-- Of the defaults of a job that is created with nothing given, only one is kept: one is of a field
that may be left out, and a relation has its key under the name of another. -/
theorem defaults_passed_over :
    let new : Document := [("stage", .null), ("priority", .text "low"), ("ownerId", .null),
      ("_id", .text (Identifier.ofNat 1))]
    (storeHost jobs).Passes State.IsNew (jobsUnderWay (.object [])) ∧
      (jobsUnderWay (.object [])).records "Job" = [new] ∧
      promised (.object []) stageField = .ok (.text "new") ∧
      promised (.object []) priorityField = .ok (.text "low") ∧
      promised (.object []) ownerField = .ok (.text "u1") :=
  ⟨jobsUnderWay_passes _, rfl, rfl, rfl, rfl⟩

end Store

end Docbase
