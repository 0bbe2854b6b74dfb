import Docbase.Proofs.FixedKeys
import Docbase.Proofs.QuotedTexts
import Docbase.Proofs.Refusals
import Docbase.Proofs.Shares
import Docbase.Proofs.ValidSchema

/-! # Reading closed schemas

A schema is read exactly when its parts can be read one by one, no two of its resources have one
name and every relation leads to one of them. Resources given under their names are read as the
list of their bodies, each with its key as name unless it carries its own.
-/

namespace Docbase

/-! ## Reading looks keys up -/

namespace Keyed

/-- Two keyed lists have the same entry under every key. -/
def Alike {α : Type} (entries others : Keyed α) : Prop :=
  ∀ key, entries.get? key = others.get? key

end Keyed

namespace Validated

variable {ε α β : Type} {fields others : Document}

theorem exists_of_mapM_eq_error {f : α → Except ε β} {items : List α} {e : ε}
    (h : items.mapM f = .error e) : ∃ item ∈ items, f item = .error e := by
  induction items with
  | nil => cases h
  | cons item rest ih =>
      rw [List.mapM_cons, bind_eq_error] at h
      rcases h with hitem | ⟨result, -, hrest⟩
      · exact ⟨item, List.mem_cons_self, hitem⟩
      · rcases bind_eq_error.mp hrest with hlater | ⟨results, -, hdone⟩
        · obtain ⟨other, hother, hfault⟩ := ih hlater
          exact ⟨other, List.mem_cons_of_mem _ hother, hfault⟩
        · cases hdone

theorem lookup?_congr (h : Keyed.Alike fields others) (keys : List String) :
    lookup? fields keys = lookup? others keys := by
  unfold lookup?
  exact congrArg (List.findSome? · keys) (funext fun key => by rw [h key])

theorem part_congr (h : Keyed.Alike fields others) (keys : List String) (absent : α)
    (read : Value → Validated α) : part fields keys absent read = part others keys absent read := by
  rw [part, part, lookup?_congr h]

theorem required_congr (h : Keyed.Alike fields others) (key : String)
    (read : Value → Validated α) : required fields key read = required others key read := by
  rw [required, required, h key]

theorem each_eq_ok {read : Value → Validated α} {n : Nat} {items : List Value}
    {results : List α} : each read n items = .ok results ↔
      List.Forall₂ (fun item result => read item = .ok result) items results := by
  induction items generalizing n results with
  | nil =>
      rw [each, List.forall₂_nil_left_iff]
      exact ⟨fun h => (Except.ok.inj h).symm, fun h => h ▸ rfl⟩
  | cons item rest ih =>
      rw [each, List.forall₂_cons_left_iff]
      constructor
      · intro h
        obtain ⟨f, others, hf, hrest, rfl⟩ := plus_eq_ok.mp h
        obtain ⟨g, result, hg, hresult, rfl⟩ := plus_eq_ok.mp hf
        obtain rfl := Except.ok.inj hg
        exact ⟨result, others, under_eq_ok.mp hresult, ih.mp hrest, rfl⟩
      · rintro ⟨result, others, hresult, hrest, rfl⟩
        exact plus_eq_ok.mpr ⟨_, others, plus_eq_ok.mpr
          ⟨List.cons, result, rfl, under_eq_ok.mpr hresult, rfl⟩, ih.mpr hrest, rfl⟩

theorem each_congr {read : Value → Validated α} {items others : List Value}
    (h : List.Forall₂ (fun item other => read item = read other) items others) (n : Nat) :
    each read n items = each read n others := by
  induction h generalizing n with
  | nil => rfl
  | cons hfirst _ ih => rw [each, each, hfirst, ih]

end Validated

theorem Resource.read_congr {fields others : Document} (h : Keyed.Alike fields others) :
    Resource.read fields = Resource.read others := by
  simp only [Resource.read, Validated.required_congr h, Validated.part_congr h]

namespace Schema

open Validated

/-! ## The two notations -/

/-- The body of a resource given under its name: an object, or null for an empty one. -/
inductive Body : Value → Document → Prop
  | null : Body .null []
  | object (fields : Document) : Body (.object fields) fields

/-- An item stands for a resource given under its name: the body with the key as name, unless the
body carries its own. -/
def StandsFor (entry : String × Value) (item : Value) : Prop :=
  ∃ body fields, Body entry.2 body ∧ item = .object fields ∧
    ∀ key, Keyed.get? fields key =
      (Keyed.get? body key).or (if key = "name" then some (.text entry.1) else none)

/-- The resources of a schema are given as a list of items: in it, under their names, or not at
all. -/
inductive Gives (fields : Document) : List Value → Prop
  | absent (h : Keyed.get? fields "resources" = none) : Gives fields []
  | list {items : List Value} (h : Keyed.get? fields "resources" = some (.list items)) :
      Gives fields items
  | mapping {entries : List (String × Value)} {items : List Value}
      (h : Keyed.get? fields "resources" = some (.object entries))
      (hitems : List.Forall₂ StandsFor entries items) : Gives fields items

theorem get?_name (key name : String) : Keyed.get? [("name", Value.text name)] key =
    if key = "name" then some (.text name) else none := by
  by_cases hkey : key = "name"
  · subst hkey
    rfl
  · have hne : (key == "name") = false := by simpa using hkey
    simp [Keyed.get?, List.lookup_cons, hne, hkey]

theorem standsFor_of_named {name : String} {body item : Value} (hbody : body.IsJson)
    (h : named (.text name) body = .ok item) : StandsFor (name, body) item := by
  cases hbody with
  | null =>
      obtain rfl := Except.ok.inj h
      exact ⟨[], _, .null, rfl, fun key => by rw [get?_name, Keyed.get?_nil, Option.none_or]⟩
  | object hkeys _ =>
      obtain rfl := Except.ok.inj h
      exact ⟨_, _, .object _, rfl, fun key => by rw [Keyed.get?_merge hkeys, get?_name]⟩
  | _ => cases h

theorem forall₂_standsFor {entries : List (String × Value)} {items : List Value}
    (hjson : ∀ entry ∈ entries, entry.2.IsJson)
    (h : List.Forall₂ (fun entry item => named (.text entry.1) entry.2 = .ok item) entries items) :
    List.Forall₂ StandsFor entries items := by
  induction h with
  | nil => exact .nil
  | cons hfirst _ ih =>
      obtain ⟨hentry, hentries⟩ := List.forall_mem_cons.1 hjson
      exact .cons (standsFor_of_named hentry hfirst) (ih hentries)

/-- What stands for one resource is read alike. -/
theorem StandsFor.read_eq {entry : String × Value} {item other : Value}
    (h : StandsFor entry item) (h' : StandsFor entry other) :
    record Resource.read item = record Resource.read other := by
  obtain ⟨body, fields, hbody, rfl, hfields⟩ := h
  obtain ⟨body', fields', hbody', rfl, hfields'⟩ := h'
  have hsame : body = body' := by
    generalize entry.2 = value at hbody hbody'
    cases hbody <;> cases hbody' <;> rfl
  subst hsame
  exact Resource.read_congr fun key => (hfields key).trans (hfields' key).symm

theorem exists_named {entry : String × Value} {item : Value} (h : StandsFor entry item) :
    ∃ other, named (.text entry.1) entry.2 = .ok other := by
  obtain ⟨body, fields, hbody, -⟩ := h
  generalize entry.2 = value at hbody
  cases hbody with
  | null => exact ⟨_, rfl⟩
  | object => exact ⟨_, rfl⟩

/-- Resources given under their names are listed if each of them has a body. -/
theorem exists_listed {entries : List (String × Value)} {items : List Value}
    (hjson : ∀ entry ∈ entries, entry.2.IsJson) (h : List.Forall₂ StandsFor entries items) :
    ∃ others, listed (entries.map fun (name, body) => (.text name, body)) = .ok others ∧
      List.Forall₂ (fun other item => record Resource.read other = record Resource.read item)
        others items := by
  simp only [listed, Relations.mapM_eq_ok_iff_forall₂, List.forall₂_map_left_iff]
  induction h with
  | nil => exact ⟨[], .nil, .nil⟩
  | @cons entry item entries items hfirst hrest ih =>
      obtain ⟨hentry, hentries⟩ := List.forall_mem_cons.1 hjson
      obtain ⟨others, hothers, halike⟩ := ih hentries
      obtain ⟨other, hother⟩ := exists_named hfirst
      exact ⟨other :: others, .cons hother hothers,
        .cons ((standsFor_of_named hentry hother).read_eq hfirst) halike⟩

/-! ## What is read -/

/-- The parts of a schema, as they are read one by one. -/
structure IsReading (fields : Document) (items : List Value) (schema : Schema) : Prop where
  name : part fields ["name"] "app" text = .ok schema.name
  version : part fields ["version"] "0.1.0" text = .ok schema.version
  resources : List.Forall₂ (fun item resource => record Resource.read item = .ok resource)
    items schema.resources

theorem distinct_eq_ok_iff {resources read : List Resource} :
    distinct resources = .ok read ↔ read = resources ∧ (resources.map (·.name)).Nodup := by
  have hnone : repeatedName? [] resources = none ↔ (resources.map (·.name)).Nodup := by
    simp [repeatedName?_eq_none_iff]
  unfold distinct
  split
  next name hname => simp [refuse, ← hnone, hname]
  next hname => simp [← hnone, hname, eq_comm]

theorem closed_eq_ok_iff {schema read : Schema} :
    Schema.closed schema = .ok read ↔ read = schema ∧ ∀ resource ∈ schema.resources,
      ∀ relation ∈ resource.relations, relation.target ∈ schema.resourceNames := by
  rw [← strayRelation?_eq_none_iff]
  unfold Schema.closed
  split
  next name relation hstray => simp [refuse, hstray]
  next hstray => simp [hstray, eq_comm]

theorem readResources_list_eq_ok {items : List Value} {resources : List Resource} :
    readResources (.list items) = .ok resources ↔
      List.Forall₂ (fun item resource => record Resource.read item = .ok resource)
        items resources ∧ (resources.map (·.name)).Nodup := by
  rw [readResources, bind_eq_ok]
  simp only [Validated.list, each_eq_ok, distinct_eq_ok_iff]
  constructor
  · rintro ⟨read, hread, rfl, hnames⟩
    exact ⟨hread, hnames⟩
  · rintro ⟨hread, hnames⟩
    exact ⟨resources, hread, rfl, hnames⟩

/-- A schema with resources that have been read, the rest of it being read out of fields. -/
def readWith (fields : Document) (resources : Validated (List Resource)) : Validated Schema := do
  let parts : Validated Schema := .ok Schema.mk
    |> plus (part fields ["name"] "app" text)
    |> plus (part fields ["version"] "0.1.0" text)
    |> plus resources
  Schema.closed (← parts)

theorem read_eq_readWith (fields : Document) :
    read fields = readWith fields (part fields ["resources"] [] readResources) := rfl

theorem readWith_eq_ok {fields : Document} {resources : Validated (List Resource)}
    {schema : Schema} : readWith fields resources = .ok schema ↔
      (part fields ["name"] "app" text = .ok schema.name ∧
        part fields ["version"] "0.1.0" text = .ok schema.version ∧
        resources = .ok schema.resources) ∧
      ∀ resource ∈ schema.resources, ∀ relation ∈ resource.relations,
        relation.target ∈ schema.resourceNames := by
  rw [readWith, bind_eq_ok]
  simp only [closed_eq_ok_iff, plus_eq_ok]
  constructor
  · rintro ⟨_, ⟨_, resources, ⟨_, version, ⟨_, name, hmake, hname, rfl⟩, hversion, rfl⟩,
      hresources, rfl⟩, rfl, hclosed⟩
    obtain rfl := Except.ok.inj hmake
    exact ⟨⟨hname, hversion, hresources⟩, hclosed⟩
  · rintro ⟨⟨hname, hversion, hresources⟩, hclosed⟩
    exact ⟨schema, ⟨_, _, ⟨_, _, ⟨_, _, rfl, hname, rfl⟩, hversion, rfl⟩, hresources, rfl⟩, rfl,
      hclosed⟩

theorem part_put_of_ne {α : Type} (fields : Document) {key other : String} (value : Value)
    (hne : other ≠ key) (absent : α) (read : Value → Validated α) :
    part (Keyed.put fields key value) [other] absent read = part fields [other] absent read := by
  simp [part, lookup?, Keyed.get?_put_of_ne _ _ hne]

theorem part_of_get? {α : Type} {fields : Document} {key : String} {value : Value}
    (h : Keyed.get? fields key = some value) (absent : α) (read : Value → Validated α) :
    part fields [key] absent read = under (.key key) (read value) := by
  simp [part, lookup?, h]

/-- What the rest of a schema is read as does not depend on its resources. -/
theorem read_put (fields : Document) (value : Value) :
    read (Keyed.put fields "resources" value) =
      readWith fields (under (.key "resources") (readResources value)) := by
  rw [read_eq_readWith, part_of_get? (Keyed.get?_put_self fields "resources" value), readWith,
    part_put_of_ne fields value (by decide), part_put_of_ne fields value (by decide)]
  rfl

theorem ofValue_of_list {fields : Document} {items : List Value}
    (h : Keyed.get? fields "resources" = some (.list items)) :
    ofValue (.object fields) = (read fields).mapError .invalid := by
  rw [ofValue, normalize, h]
  rfl

theorem isJson_of_entry {fields : Document} {key : String} {entries : List (String × Value)}
    (hjson : (Value.object fields).IsJson) (h : Keyed.get? fields key = some (.object entries)) :
    ∀ entry ∈ entries, entry.2.IsJson := by
  cases hjson with
  | object _ hfields =>
      have hobject : (Value.object entries).IsJson := hfields _ (Keyed.mem_of_get?_eq_some h)
      cases hobject with
      | object _ hentries => exact hentries

/-- A schema is read the same in all notations. -/
theorem ofValue_of_gives {fields : Document} {items : List Value}
    (hjson : (Value.object fields).IsJson) (h : Gives fields items) :
    ofValue (.object fields) =
      ofValue (.object (Keyed.put fields "resources" (.list items))) := by
  rw [ofValue_of_list (Keyed.get?_put_self fields "resources" (.list items))]
  cases h with
  | absent h =>
      have hread : read fields = read (Keyed.put fields "resources" (.list [])) := by
        have habsent : part fields ["resources"] [] readResources = .ok [] := by
          simp [part, lookup?, h]
        rw [read_put, read_eq_readWith, habsent]
        rfl
      rw [ofValue, normalize, h, ← hread]
      rfl
  | list h =>
      have hread : read fields = read (Keyed.put fields "resources" (.list items)) := by
        rw [read_put, read_eq_readWith, part_of_get? h]
      rw [ofValue_of_list h, hread]
  | mapping h hitems =>
      obtain ⟨others, hothers, halike⟩ := exists_listed (isJson_of_entry hjson h) hitems
      have hread : read (Keyed.put fields "resources" (.list others)) =
          read (Keyed.put fields "resources" (.list items)) := by
        rw [read_put, read_put, readResources, readResources, Validated.list, Validated.list,
          each_congr halike]
      rw [ofValue, normalize, h, ← hread]
      simp only [hothers]
      rfl

/-- A schema is read exactly when its parts are, and the whole of them is valid. -/
theorem ofValue_eq_ok_iff {fields : Document} {items : List Value} {schema : Schema}
    (hjson : (Value.object fields).IsJson) (h : Gives fields items) :
    ofValue (.object fields) = .ok schema ↔ IsReading fields items schema ∧ schema.IsValid := by
  rw [ofValue_of_gives hjson h, ofValue_of_list (Keyed.get?_put_self _ _ _), mapError_eq_ok,
    read_put, readWith_eq_ok, under_eq_ok, readResources_list_eq_ok]
  constructor
  · rintro ⟨⟨hname, hversion, hresources, hnames⟩, hclosed⟩
    exact ⟨⟨hname, hversion, hresources⟩, hnames, hclosed⟩
  · rintro ⟨⟨hname, hversion, hresources⟩, hnames, hclosed⟩
    exact ⟨⟨hname, hversion, hresources, hnames⟩, hclosed⟩

/-! ## What is refused -/

/-- Why a value is refused as a schema. -/
inductive RefusedAs : Value → SchemaFault → Prop
  | notObject {value : Value} (h : ∀ fields, value ≠ .object fields) :
      RefusedAs value (.notObject value.typeName)
  | resourceNotObject {fields : Document} {entries : List (String × Value)}
      {entry : String × Value} (h : Keyed.get? fields "resources" = some (.object entries))
      (hentry : entry ∈ entries) (hbody : ∀ body, ¬ Body entry.2 body) :
      RefusedAs (.object fields) (.resourceNotObject entry.1)
  | invalid {fields : Document} (violations : List Violation)
      (h : ∀ entries, Keyed.get? fields "resources" = some (.object entries) →
        ∀ entry ∈ entries, ∃ body, Body entry.2 body) :
      RefusedAs (.object fields) (.invalid violations)

theorem named_eq_error {name : String} {body : Value} {fault : SchemaFault}
    (h : named (.text name) body = .error fault) :
    (∀ fields, ¬ Body body fields) ∧ fault = .resourceNotObject name := by
  cases body with
  | null => cases h
  | object => cases h
  | _ =>
      obtain rfl := Except.error.inj h
      exact ⟨nofun, rfl⟩

theorem listed_eq_error {entries : List (String × Value)} {fault : SchemaFault}
    (h : listed (entries.map fun (name, body) => (.text name, body)) = .error fault) :
    ∃ entry ∈ entries, (∀ body, ¬ Body entry.2 body) ∧ fault = .resourceNotObject entry.1 := by
  obtain ⟨⟨name, body⟩, hmem, hnamed⟩ := exists_of_mapM_eq_error h
  obtain ⟨entry, hentry, heq⟩ := List.mem_map.mp hmem
  cases heq
  exact ⟨entry, hentry, named_eq_error hnamed⟩

theorem body_of_named {name body item : Value} (h : named name body = .ok item) :
    ∃ fields, Body body fields := by
  cases body with
  | null => exact ⟨[], .null⟩
  | object fields => exact ⟨fields, .object fields⟩
  | _ => cases h

theorem body_of_listed {entries : List (String × Value)} {items : List Value}
    (h : listed (entries.map fun (name, body) => (.text name, body)) = .ok items) :
    ∀ entry ∈ entries, ∃ body, Body entry.2 body := by
  rw [listed, Relations.mapM_eq_ok_iff_forall₂, List.forall₂_map_left_iff] at h
  induction h with
  | nil => exact List.forall_mem_nil _
  | cons hfirst _ ih => exact List.forall_mem_cons.2 ⟨body_of_named hfirst, ih⟩

theorem refusedAs_of_ofValue {value : Value} {fault : SchemaFault}
    (h : ofValue value = .error fault) : RefusedAs value fault := by
  unfold ofValue at h
  split at h
  next fields =>
    rcases bind_eq_error.mp h with hnormalize | ⟨normalized, hnormalize, hread⟩
    · unfold normalize at hnormalize
      split at hnormalize
      next entries hentries =>
        rcases bind_eq_error.mp hnormalize with hlisted | ⟨_, -, hdone⟩
        · obtain ⟨entry, hentry, hbody, rfl⟩ := listed_eq_error hlisted
          exact .resourceNotObject hentries hentry hbody
        · cases hdone
      next => cases hnormalize
    · cases hparts : read normalized with
      | ok => rw [hparts] at hread; cases hread
      | error violations =>
          rw [hparts] at hread
          obtain rfl := Except.error.inj hread
          refine .invalid violations fun entries hentries => ?_
          rw [normalize, hentries] at hnormalize
          obtain ⟨items, hlisted, -⟩ := bind_eq_ok.mp hnormalize
          exact body_of_listed hlisted
  next hobject =>
    obtain rfl := Except.error.inj h
    exact .notObject hobject

/-! ## Closed schemas -/

/-- Resources that are read are given in one of the notations. -/
theorem exists_gives_of_ofValue {value : Value} {schema : Schema} (hjson : value.IsJson)
    (h : ofValue value = .ok schema) : ∃ fields items, value = .object fields ∧
      Gives fields items := by
  unfold ofValue at h
  split at h
  next fields =>
    obtain ⟨normalized, hnormalized, hread⟩ := bind_eq_ok.mp h
    refine ⟨fields, ?_⟩
    cases hresources : Keyed.get? fields "resources" with
    | none => exact ⟨[], rfl, .absent hresources⟩
    | some resources =>
        cases resources with
        | list items => exact ⟨items, rfl, .list hresources⟩
        | object entries =>
            rw [normalize, hresources] at hnormalized
            obtain ⟨items, hlisted, -⟩ := bind_eq_ok.mp hnormalized
            rw [listed, Relations.mapM_eq_ok_iff_forall₂, List.forall₂_map_left_iff] at hlisted
            have hentries := isJson_of_entry hjson hresources
            exact ⟨items, rfl, .mapping hresources (forall₂_standsFor hentries hlisted)⟩
        | _ =>
            -- Anything else is passed on, and refused because it is no list.
            rw [normalize, hresources] at hnormalized
            obtain rfl := Except.ok.inj hnormalized
            rw [mapError_eq_ok, read_eq_readWith, readWith_eq_ok] at hread
            obtain ⟨⟨-, -, hpart⟩, -⟩ := hread
            rw [part_of_get? hresources, under_eq_ok] at hpart
            cases hpart
  next => cases h

theorem get_of_mem {schema : Schema} {name : String} (h : name ∈ schema.resourceNames) :
    ∃ target ∈ schema.resources, target.name = name ∧
      (Registry.ofSchema schema).get name = .ok target := by
  have hhas : (Registry.ofSchema schema).has name = true := Registry.has_iff.mpr h
  obtain ⟨target, htarget⟩ := Registry.has_iff_get.mp hhas
  refine ⟨target, ?_, Registry.name_of_get htarget, htarget⟩
  unfold Registry.get at htarget
  split at htarget
  next found hfound =>
    cases htarget
    exact List.mem_of_find?_eq_some hfound
  next => cases htarget

/-- What a schema that is read can be relied on for: the names of its resources are listed once
each, in order, and every relation leads to one of them. -/
structure IsClosed (schema : Schema) : Prop where
  names : (Registry.ofSchema schema).resourceNames = schema.resources.map (·.name)
  nodup : (Registry.ofSchema schema).resourceNames.Nodup
  get : ∀ resource ∈ schema.resources, ∀ relation ∈ resource.relations,
    ∃ target ∈ schema.resources, target.name = relation.target ∧
      (Registry.ofSchema schema).get relation.target = .ok target

theorem IsValid.isClosed {schema : Schema} (h : schema.IsValid) : schema.IsClosed where
  names := rfl
  nodup := h.distinct
  get := fun resource hresource relation hrelation =>
    get_of_mem (h.closed resource hresource relation hrelation)

/-- A value is refused, or it is read as a closed schema out of resources in one of the notations.
In each of them a schema is read exactly when its parts are and the whole is valid, and the
resources can be given as a list as well. -/
theorem ofValue_closed {value : Value} (hjson : value.IsJson) :
    (∀ fault, ofValue value = .error fault → RefusedAs value fault) ∧
    (∀ schema, ofValue value = .ok schema →
      schema.IsClosed ∧ ∃ fields items, value = .object fields ∧ Gives fields items) ∧
    ∀ fields items, value = .object fields → Gives fields items →
      (∀ schema, ofValue value = .ok schema ↔
        IsReading fields items schema ∧ schema.IsValid) ∧
      ofValue value = ofValue (.object (Keyed.put fields "resources" (.list items))) := by
  refine ⟨fun fault => refusedAs_of_ofValue, fun schema hschema => ?_, ?_⟩
  · exact ⟨(isValid_of_ofValue hschema).isClosed, exists_gives_of_ofValue hjson hschema⟩
  · rintro fields items rfl hgives
    exact ⟨fun schema => ofValue_eq_ok_iff hjson hgives, ofValue_of_gives hjson hgives⟩

/-- A schema whose resources are given under their names: an account that calls itself a user, as
which a post asks for it, and a tag without a body. -/
def namedBlog : Document :=
  [("name", .text "blog"), ("resources", .object
    [("Post", .object [("relations", .list [.object [("name", .text "author"),
      ("to", .text "User")]])]),
      ("Account", .object [("name", .text "User")]), ("Tag", .null)])]

/-- The resources as a list. -/
def listedBlog : List Value :=
  [.object [("name", .text "Post"), ("relations", .list [.object [("name", .text "author"),
    ("to", .text "User")]])],
    .object [("name", .text "User")], .object [("name", .text "Tag")]]

/-- What is read. -/
def readBlog : Schema where
  name := "blog"
  version := "0.1.0"
  resources := [
    { name := "Post", relations := [{ name := "author", target := "User" }] },
    { name := "User" }, { name := "Tag" }]

theorem isJson_namedBlog : (Value.object namedBlog).IsJson := by
  refine .object (by decide) ?_
  simp only [namedBlog, List.forall_mem_cons]
  refine ⟨.text _, .object (by decide) ?_, List.forall_mem_nil _⟩
  simp only [List.forall_mem_cons]
  refine ⟨.object (by decide) ?_, .object (by decide) ?_, .null, List.forall_mem_nil _⟩
  · simp only [List.forall_mem_cons]
    refine ⟨.list ?_, List.forall_mem_nil _⟩
    simp only [List.forall_mem_cons]
    refine ⟨.object (by decide) ?_, List.forall_mem_nil _⟩
    simp only [List.forall_mem_cons]
    exact ⟨.text _, .text _, List.forall_mem_nil _⟩
  · simp only [List.forall_mem_cons]
    exact ⟨.text _, List.forall_mem_nil _⟩

theorem gives_namedBlog : Gives namedBlog listedBlog := by
  have hresources : ∃ entries, Keyed.get? namedBlog "resources" = some (.object entries) ∧
      List.Forall₂ (fun entry item => named (.text entry.1) entry.2 = .ok item)
        entries listedBlog :=
    ⟨_, rfl, .cons rfl (.cons rfl (.cons rfl .nil))⟩
  obtain ⟨entries, hentries, hnamed⟩ := hresources
  exact .mapping hentries
    (forall₂_standsFor (isJson_of_entry isJson_namedBlog hentries) hnamed)

theorem ofValue_closed_namedBlog :
    (Value.object namedBlog).IsJson ∧ Gives namedBlog listedBlog ∧
      ofValue (.object namedBlog) = .ok readBlog ∧ readBlog.IsClosed := by
  obtain ⟨-, hread, hgives⟩ := ofValue_closed isJson_namedBlog
  have hblog : ofValue (.object namedBlog) = .ok readBlog :=
    ((hgives _ _ rfl gives_namedBlog).1 readBlog).2
      ⟨⟨rfl, rfl, .cons rfl (.cons rfl (.cons rfl .nil))⟩, by decide, by decide⟩
  exact ⟨isJson_namedBlog, gives_namedBlog, hblog, (hread readBlog hblog).1⟩

end Schema

end Docbase
