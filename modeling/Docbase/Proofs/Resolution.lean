import Docbase.Proofs.Correspondence
import Docbase.Proofs.Declarations
import Docbase.Proofs.Decomposition
import Docbase.Proofs.Grouping
import Docbase.Proofs.Refusals
import Docbase.Proofs.Requests

/-! # Which declared relations are resolved

A relation that is declared to lead to many is resolved only if the schema has the name of the
relation for the reverse of another one, or a resource named after its two ends. Otherwise it is
said to be unknown when it is asked for, and skipped when it is to be embedded, although it is
declared.
-/

namespace Docbase

open Effect Script

/-! ## Failures that are not unknown relations -/

/-- A failure, if there is one, is not that a relation is unknown. -/
def KnowsRelations {α : Type} (outcome : Except Fault α) : Prop :=
  ∀ resource name, outcome ≠ .error (.unknownRelation resource name)

namespace KnowsRelations

variable {α β : Type} {outcome : Except Fault α}

theorem ok (value : α) : KnowsRelations (.ok value) :=
  nofun

theorem bind {next : α → Except Fault β} (h : KnowsRelations outcome)
    (hnext : ∀ value, KnowsRelations (next value)) : KnowsRelations (outcome >>= next) := by
  intro resource name heq
  rcases bind_eq_error.mp heq with herror | ⟨value, -, herror⟩
  · exact h resource name herror
  · exact hnext value resource name herror

theorem map (f : α → β) (h : KnowsRelations outcome) : KnowsRelations (outcome.map f) :=
  fun resource name heq => h resource name (map_eq_error.mp heq)

theorem mapM {f : β → Except Fault α} (h : ∀ item, KnowsRelations (f item)) (items : List β) :
    KnowsRelations (items.mapM f) := by
  induction items with
  | nil => exact ok []
  | cons item rest ih =>
      rw [List.mapM_cons]
      exact (h item).bind fun _ => ih.bind fun _ => ok _

/-- Whatever is wrong with a filter, it is not that a relation is unknown. -/
theorem read (filter : Value) : KnowsRelations (Filter.read filter) := by
  intro resource name heq
  have hquery : ¬(Fault.unknownRelation resource name).IsQuery := nofun
  obtain ⟨_, _, _, _, _, _, _, _, _, hcause⟩ := (Filter.read_escapes hquery).mp heq
  cases hcause

end KnowsRelations

namespace Relations

variable {registry : Registry} {records : String → List Document} {resource name : String}

theorem named_knowsRelations (docs : List Document) (key : Value) :
    KnowsRelations (named docs key) := by
  unfold named
  split
  next => exact (KnowsRelations.read _).map _
  next => exact .ok none

theorem knows_iff : registry.Knows resource name ↔
    ¬((registry.relation? resource name).filter (·.cardinality = .one) = none ∧
      registry.inverse? resource name = none ∧ registry.junction? resource name = none) := by
  constructor
  · rintro h ⟨hone, hinverse, hjunction⟩
    cases h with
    | one hrelation hcardinality => simp [hrelation, hcardinality] at hone
    | inverse h => simp [hinverse] at h
    | junction h => simp [hjunction] at h
  · intro h
    cases hdeclared : (registry.relation? resource name).filter (·.cardinality = .one) with
    | some relation =>
        obtain ⟨hrelation, hone⟩ := Option.filter_eq_some_iff.mp hdeclared
        exact .one hrelation (by simpa using hone)
    | none =>
        cases hinverse : registry.inverse? resource name with
        | some inverse => exact .inverse (by rw [hinverse]; rfl)
        | none =>
            cases hjunction : registry.junction? resource name with
            | some junction => exact .junction (by rw [hjunction]; rfl)
            | none => exact absurd ⟨hdeclared, hinverse, hjunction⟩ h

theorem loaded_of_knows (h : registry.Knows resource name) (doc : Document) :
    KnowsRelations (loaded registry records resource doc name) ∧
      loaded registry records resource doc name ≠ .ok none := by
  unfold loaded
  split
  next relation _ _ _ =>
    refine ⟨(named_knowsRelations _ _).map _, fun heq => ?_⟩
    obtain ⟨_, -, hsome⟩ := Validated.map_eq_ok.mp heq
    cases hsome
  next inverse _ _ _ =>
    refine ⟨(KnowsRelations.read _).map _, fun heq => ?_⟩
    obtain ⟨_, -, hsome⟩ := Validated.map_eq_ok.mp heq
    cases hsome
  next junction _ _ _ =>
    refine ⟨(KnowsRelations.read _).bind fun filter =>
      (KnowsRelations.mapM (fun row => named_knowsRelations _ _) _).bind fun _ => .ok _,
      fun heq => ?_⟩
    obtain ⟨_, -, heq⟩ := Validated.bind_eq_ok.mp heq
    obtain ⟨_, -, hsome⟩ := Validated.bind_eq_ok.mp heq
    cases hsome
  next hone hinverse hjunction => exact absurd ⟨hone, hinverse, hjunction⟩ (knows_iff.mp h)

section

variable (h : ¬registry.Knows resource name)

include h

theorem apply_load?_of_not_knows (doc : Document) (c : Connection) :
    (load? registry resource doc name).apply c = (.ok none, c) := by
  obtain ⟨hone, hinverse, hjunction⟩ := not_not.mp (mt knows_iff.mpr h)
  rw [load?, hone, hinverse, hjunction]
  rfl

theorem loaded_of_not_knows (doc : Document) :
    loaded registry records resource doc name = .ok none := by
  obtain ⟨hone, hinverse, hjunction⟩ := not_not.mp (mt knows_iff.mpr h)
  rw [loaded, hone, hinverse, hjunction]

end

/-! ## What is noted -/

/-- The note that a way from a resource is not followed. -/
def skipped (path resource : String) : Entry :=
  ⟨Level.debug, "Relations", "Skipping unknown include '" ++ path ++ "' on " ++ resource, []⟩

theorem populate_single (registry : Registry) (resource : String) (doc : Document)
    (spec : Include) : populate registry resource doc [spec] =
      embed registry spec.select spec.segments resource doc :=
  bind_pure _

/-- A way is skipped if its first relation is not known. -/
theorem apply_embed_of_not_knows (h : ¬registry.Knows resource name) (rest : List String)
    (select : Option (List Value)) (doc : Document) (c : Connection) :
    (embed registry select (name :: rest) resource doc).apply c =
      (.ok doc, c.noted [skipped (Include.join (name :: rest)) resource]) := by
  cases rest with
  | nil =>
      have hjoin : Include.join [name] = name := rfl
      rw [embed, apply_bind, apply_load?_of_not_knows h, hjoin]
      rfl
  | cons next more =>
      rw [embed, apply_bind, apply_load?_of_not_knows h]
      rfl

theorem apply_populate_of_not_knows {spec : Include} (h : ¬registry.Knows resource spec.head)
    (doc : Document) (c : Connection) :
    (populate registry resource doc [spec]).apply c =
      (.ok doc, c.noted [skipped spec.path resource]) := by
  obtain ⟨rest, hsegments⟩ := spec.exists_segments_eq
  rw [populate_single, hsegments, apply_embed_of_not_knows h, ← hsegments, Include.segments,
    Include.join_splitOn, String.ofList_toList]

/-! ## Nothing is noted about relations that are known -/

/-- An operation on a backend that is connected leaves the surroundings as they are. -/
def Silent {α : Type} (effect : Effect Connection α) : Prop :=
  ∀ around, Keeps (fun c => c.backend.connected = true ∧ c.around = around) effect

theorem findById_silent (resource : String) (id : Value) : Silent (findById resource id) := by
  refine fun around => Keeps.bind ?_ fun found => Keeps.pure _
  rintro c ⟨hc, haround⟩
  rw [Connection.apply_findOne hc]
  exact ⟨hc, haround⟩

theorem findWhere_silent (resource field : String) (value : Value) :
    Silent (findWhere resource field value) := by
  refine fun around => (Keeps.ofExcept _).bind fun filter => Keeps.bind ?_ fun found => Keeps.pure _
  rintro c ⟨hc, haround⟩
  rw [Connection.apply_find hc]
  exact ⟨hc, haround⟩

theorem targets_silent (resource key : String) (rows : List Document) :
    Silent (targets resource key rows) := by
  intro around
  induction rows with
  | nil => exact Keeps.pure []
  | cons row rest ih =>
      rw [targets]
      split
      next => exact (findById_silent _ _ around).bind fun _ => ih.bind fun _ => Keeps.pure _
      next => exact (Keeps.pure none).bind fun _ => ih.bind fun _ => Keeps.pure _

theorem load?_silent (registry : Registry) (resource : String) (doc : Document) (name : String) :
    Silent (load? registry resource doc name) := by
  intro around
  unfold load?
  dsimp only
  split
  next =>
    split
    next => exact (findById_silent _ _ around).bind fun _ => Keeps.pure _
    next => exact (Keeps.pure none).bind fun _ => Keeps.pure _
  next => exact (findWhere_silent _ _ _ around).bind fun _ => Keeps.pure _
  next =>
    exact (findWhere_silent _ _ _ around).bind fun rows =>
      (targets_silent _ _ rows around).bind fun _ => Keeps.pure _
  next => exact Keeps.pure none

theorem around_embed_of_knows {records : String → List Document}
    (hknows : registry.Knows resource name) {c : Connection} (h : c.Shows records)
    (select : Option (List Value)) (doc : Document) :
    ((embed registry select [name] resource doc).apply c).2.around = c.around := by
  have hloaded := (load?_yields registry resource doc name c h).1
  have haround := (load?_silent registry resource doc name c.around c ⟨h.ready.connected, rfl⟩).2
  rw [embed, apply_bind]
  rcases hrun : (load? registry resource doc name).apply c with ⟨result, after⟩
  rw [hrun] at hloaded haround
  cases result with
  | error fault => exact haround
  | ok found =>
      cases found with
      | none => exact absurd hloaded.symm (loaded_of_knows hknows doc).2
      | some found =>
          -- What is left to do is to keep the fields asked for, which fails without a note.
          dsimp only
          rw [apply_bind, apply_ofExcept]
          cases found.2.project select <;> exact haround

/-! ## Asking for a relation -/

/-- What a relation of a document leads to, which has to be known. -/
def resolved (registry : Registry) (records : String → List Document) (resource : String)
    (doc : Document) (name : String) : Except Fault Related := do
  match ← loaded registry records resource doc name with
  | some (_, related) => return related
  | none => .error (.unknownRelation resource name)

theorem resolve_yields (records : String → List Document) (registry : Registry)
    (resource : String) (doc : Document) (name : String) :
    Yields (Connection.Shows records) (resolve registry resource doc name)
      (resolved registry records resource doc name) := by
  refine (load?_yields registry resource doc name).bind fun found _ => ?_
  cases found with
  | none => exact fun c h => ⟨rfl, h⟩
  | some found => exact Yields.pure found.2

/-- A relation that is asked for is said to be unknown just if it is. -/
theorem resolved_eq_unknownRelation_iff {doc : Document} {other missing : String} :
    resolved registry records resource doc name = .error (.unknownRelation other missing) ↔
      ¬registry.Knows resource name ∧ other = resource ∧ missing = name := by
  by_cases hknows : registry.Knows resource name
  · refine iff_of_false (fun heq => ?_) fun h => h.1 hknows
    have hloaded : KnowsRelations (loaded registry records resource doc name) ∧ _ :=
      loaded_of_knows hknows doc
    rcases bind_eq_error.mp heq with herror | ⟨found, hfound, herror⟩
    · exact hloaded.1 other missing herror
    · cases found with
      | none => exact hloaded.2 hfound
      | some found => cases herror
  · rw [resolved, loaded_of_not_knows hknows]
    simp [bind, Except.bind, hknows, eq_comm]

end Relations

namespace Store

variable {store : Store} {s : State} {records : String → List Document} {resource name : String}

/-- What asking for a relation of a document answers, and null without a document. -/
def relatedTo (store : Store) (records : String → List Document) (resource name : String) :
    Option Document → Except Fault Value
  | none => .ok .null
  | some doc => Related.toValue <$> Relations.resolved store.registry records resource doc name

theorem getRelated_yields (store : Store) (resource : String) (id : Value) (name : String)
    {found : Except Fault (Option Document)}
    (hfound : Yields (State.Shows records) (store.findById resource id) found) :
    Yields (State.Shows records) (store.getRelated resource id name)
      (found >>= store.relatedTo records resource name) := by
  refine hfound.bind fun doc? _ => ?_
  cases doc? with
  | none => exact Yields.pure Value.null
  | some doc =>
      have hresolve := onBackend_yields
        (Relations.resolve_yields records store.registry resource doc name)
      refine (hresolve.bind fun related _ => Yields.pure related.toValue).of_eq ?_
      rw [relatedTo]
      cases Relations.resolved store.registry records resource doc name <;> rfl

theorem findById_knowsRelations (h : s.Shows records) (store : Store) (resource : String)
    (id : Value) : KnowsRelations ((store.findById resource id).apply s).1 := by
  have hget : KnowsRelations (store.registry.get resource) := by
    unfold Registry.get
    split <;> exact nofun
  rw [(findById_yields store resource id s h).1]
  exact hget.bind fun _ => (KnowsRelations.read _).bind fun _ => .ok _

theorem getRelated_eq_unknownRelation_iff (h : s.Shows records) {id : Value}
    {other missing : String} :
    ((store.getRelated resource id name).apply s).1 = .error (.unknownRelation other missing) ↔
      (∃ doc, ((store.findById resource id).apply s).1 = .ok (some doc)) ∧
        ¬store.registry.Knows resource name ∧ other = resource ∧ missing = name := by
  have hknown := findById_knowsRelations h store resource id
  have hfound : Yields (State.Shows records) (store.findById resource id) _ :=
    findById_yields store resource id
  rw [(getRelated_yields store resource id name hfound s h).1, ← (hfound s h).1]
  generalize ((store.findById resource id).apply s).1 = found at hknown
  rw [bind_eq_error]
  constructor
  · rintro (herror | ⟨doc?, rfl, herror⟩)
    · exact absurd herror (hknown other missing)
    · cases doc? with
      | none => cases herror
      | some doc =>
          exact ⟨⟨doc, rfl⟩, Relations.resolved_eq_unknownRelation_iff.mp (map_eq_error.mp herror)⟩
  · rintro ⟨⟨doc, rfl⟩, hunknown⟩
    refine .inr ⟨some doc, rfl, map_eq_error.mpr ?_⟩
    exact Relations.resolved_eq_unknownRelation_iff.mpr hunknown

end Store

/-! ## Finding and including -/

namespace Value

theorem IsJson.isExpression_of_fixed {value : Value} (h : value.IsJson)
    (hfixed : value.isMutable = false) : value.isExpression = false := by
  cases h with
  | object hkeys hfields => cases hfixed
  | _ => rfl

end Value

/-- A document is found under its identifier, if that is a value of JSON. -/
theorem ToldApart.find?_self {docs : List Document} (h : ToldApart docs) {doc : Document}
    (hdoc : doc ∈ docs) (hjson : (doc.get idKey).IsJson) :
    docs.find? (Filter.equating idKey (doc.get idKey)).holds = some doc := by
  obtain ⟨before, after, hsplit⟩ := List.append_of_mem hdoc
  rw [List.find?_eq_some_iff_append]
  refine ⟨?_, before, after, hsplit, fun other hother => ?_⟩
  · rw [Filter.holds_equating]
    exact hjson.sameKind_self
  · -- Identifiers that differ are told apart by the finer equality of filters as well.
    have hdistinct := h.distinct
    rw [hsplit, List.pairwise_append] at hdistinct
    have hne := hdistinct.2.2 other hother doc List.mem_cons_self
    rw [Filter.holds_equating]
    simpa using mt (fun hsame => (Value.sameKind_iff_eq.mp hsame).1) (by simp [hne])

namespace Include

variable {spec : Include}

theorem segments_of_undotted (hdot : '.' ∉ spec.path.toList) : spec.segments = [spec.path] := by
  rw [segments, List.splitOn_eq_singleton hdot, List.map_singleton, String.ofList_toList]

theorem head_ne_path (hdot : '.' ∈ spec.path.toList) : spec.head ≠ spec.path := by
  obtain ⟨first, rest, hpath, hfirst⟩ := List.eq_append_cons_of_mem hdot
  have hhead : spec.head = String.ofList first := by
    rw [head, segments, hpath, List.splitOn_append_cons_self_of_not_mem hfirst]
    rfl
  rw [hhead]
  rintro heq
  rw [← heq, String.toList_ofList] at hdot
  exact hfirst hdot

end Include

namespace Relations

/-- A way changes a document under the first of its names only. -/
theorem get?_of_embedded {load : Load} {select : Option (List Value)} {segments : List String}
    {resource name : String} {doc result : Document}
    (h : embedded load select segments resource doc = .ok result)
    (hname : name ≠ segments.headD "") : Keyed.get? result name = Keyed.get? doc name := by
  match segments with
  | [] =>
      cases h
      rfl
  | [first] =>
      obtain ⟨found, -, h⟩ := Validated.bind_eq_ok.mp h
      rcases found with _ | ⟨target, related⟩
      · cases h
        rfl
      · obtain ⟨shown, -, h⟩ := Validated.bind_eq_ok.mp h
        cases h
        exact Keyed.get?_put_of_ne _ _ hname
  | first :: next :: more =>
      obtain ⟨found, -, h⟩ := Validated.bind_eq_ok.mp h
      rcases found with _ | ⟨target, related⟩
      · cases h
        rfl
      · obtain ⟨value, -, h⟩ := Validated.bind_eq_ok.mp h
        cases h
        exact Keyed.get?_put_of_ne _ _ hname

end Relations

namespace Store

variable {store : Store} {s : State} {records : String → List Document} {resource name : String}
  {spec : Include}

theorem findById_stored (h : s.Shows records) (hresource : store.registry.has resource = true)
    {doc : Document} (hdoc : doc ∈ records resource) (hjson : (doc.get idKey).IsJson) :
    ((store.findById resource (doc.get idKey)).apply s).1 = .ok (some doc.formatted) := by
  have hdocs := h.toldApart resource
  obtain ⟨found, hget⟩ := Registry.has_iff_get.mp hresource
  rw [(findById_yields store resource _ s h).1, hget, byId,
    Filter.read_equating Filter.ofKey?_idKey (hjson.isExpression_of_fixed (hdocs.fixed doc hdoc).2)]
  change Except.ok (Option.map _ _) = _
  rw [hdocs.find?_self hdoc hjson]
  rfl

theorem populate_of_not_knows (h : s.Shows records)
    (hknows : ¬store.registry.Knows resource spec.head) (doc : Document) :
    populated store s resource doc [spec] = .ok doc ∧
      ((onBackend (Relations.populate store.registry resource doc [spec])).apply s).2.around.journal
        = s.around.journal ++ [Relations.skipped spec.path resource] := by
  cases h with
  | present generation hc =>
      rw [populated, apply_onBackend_present generation hc.ready.connected,
        Relations.apply_populate_of_not_knows hknows]
      exact ⟨rfl, rfl⟩

theorem populate_of_knows (h : s.Shows records) (hspec : spec.segments = [name])
    (hknows : store.registry.Knows resource name) (doc : Document) :
    ((onBackend (Relations.populate store.registry resource doc [spec])).apply s).2.around =
      s.around := by
  cases h with
  | present generation hc =>
      rw [apply_onBackend_present generation hc.ready.connected, Relations.populate_single, hspec]
      exact Relations.around_embed_of_knows hknows hc spec.select doc

theorem findAll_of_not_knows (h : s.Shows records)
    (hknows : ¬store.registry.Knows resource spec.head) {request : Request}
    (hincludes : Include.readAll request.includes = .ok [spec])
    (hselect : request.select.isTruthy = false) :
    ((store.findAll resource request).apply s).1 =
      ((store.findAll resource { request with includes := .null }).apply s).1 := by
  have hskip : store.populatedWith records resource [spec] =
      store.populatedWith records resource [] := by
    funext doc
    have hpopulated := (populate_of_not_knows h hknows doc).1
    rw [populated_eq store h, leads_eq store h] at hpopulated
    exact hpopulated
  have hnone : Include.readAll .null = .ok [] := rfl
  have hnames (includes : List Include) : request.names includes = .ok none := by
    rw [Request.names, hselect]
    rfl
  have hnames' (includes : List Include) :
      { request with includes := .null }.names includes = .ok none := hnames includes
  rw [(answer_yields store records resource request s h).1,
    (answer_yields store records resource _ s h).1]
  simp only [Request.answer, hincludes, hnone, hnames, hnames', bind, Except.bind, hskip]

/-- What depends on whether a relation that a resource declares is resolved. -/
structure Resolution (schema : Schema) (store : Store) (s : State) (resource : Resource)
    (name : String) : Prop where
  /-- A record is found under its identifier. -/
  found : ∀ doc ∈ s.records resource.name, (doc.get idKey).IsJson →
    ((store.findById resource.name (doc.get idKey)).apply s).1 = .ok (some doc.formatted)
  /-- The relation of a record that is found is said to be unknown just if it is not resolved. -/
  raises : ∀ id other missing,
    ((store.getRelated resource.name id name).apply s).1 =
        .error (.unknownRelation other missing) ↔
      (∃ doc, ((store.findById resource.name id).apply s).1 = .ok (some doc)) ∧
        ¬schema.Resolves resource name ∧ other = resource.name ∧ missing = name
  /-- Any way that begins with a relation that is not resolved is skipped, which is noted. -/
  skips : ¬schema.Resolves resource name → ∀ spec : Include, spec.head = name → ∀ doc,
    populated store s resource.name doc [spec] = .ok doc ∧
      ((onBackend (Relations.populate store.registry resource.name doc [spec])).apply
        s).2.around.journal = s.around.journal ++ [Relations.skipped spec.path resource.name]
  /-- A request for all fields comes to the same without such a way. -/
  omits : ¬schema.Resolves resource name → ∀ spec : Include, spec.head = name →
    ∀ request : Request, Include.readAll request.includes = .ok [spec] →
      request.select.isTruthy = false →
      ((store.findAll resource.name request).apply s).1 =
        ((store.findAll resource.name { request with includes := .null }).apply s).1
  /-- What a resolved relation leads to is put under its name, and nothing is noted. -/
  embeds : schema.Resolves resource name → '.' ∉ name.toList → ∀ select doc,
    ((onBackend (Relations.populate store.registry resource.name doc [⟨name, select⟩])).apply
        s).2.around = s.around ∧
      ∀ result, populated store s resource.name doc [⟨name, select⟩] = .ok result →
        ∃ target related shown,
          leads store s resource.name doc name = .ok (some (target, related)) ∧
          related.project select = .ok shown ∧ result = Keyed.put doc name shown.toValue
  /-- A relation with a dot in its name cannot be included by its name, which is taken for a longer
  way. -/
  misread : '.' ∈ name.toList → ∀ select doc result,
    populated store s resource.name doc [⟨name, select⟩] = .ok result →
      Keyed.get? result name = Keyed.get? doc name

/-- A declared relation can be asked for and included exactly if it resolves. -/
theorem resolves_declared {schema : Schema} (hschema : schema.IsValid)
    (hregistry : store.registry = .ofSchema schema)
    (hpasses : (storeHost store).Passes State.IsNew s) (hs : s.isConnected = true)
    {resource : Resource} (hresource : resource ∈ schema.resources) {declared : Relation}
    (hdeclared : declared ∈ resource.relations) :
    Resolution schema store s resource declared.name := by
  have h := shows_of_passes hpasses hs
  have hknows : store.registry.Knows resource.name declared.name ↔
      schema.Resolves resource declared.name := by
    obtain ⟨last, hlast⟩ := Resource.exists_declared? hdeclared
    rw [hregistry]
    exact Registry.knows_iff_resolves hschema hresource hlast
  constructor
  case found =>
    have hhas : store.registry.has resource.name = true := by
      rw [hregistry]
      exact Registry.has_iff.mpr (List.mem_map_of_mem hresource)
    exact fun doc hdoc hjson => findById_stored h hhas hdoc hjson
  case raises =>
    intro id other missing
    rw [getRelated_eq_unknownRelation_iff h, hknows]
  case skips =>
    rintro hresolves spec hhead doc
    exact populate_of_not_knows h (by rwa [hhead, hknows]) doc
  case omits =>
    rintro hresolves spec hhead request hincludes hselect
    exact findAll_of_not_knows h (by rwa [hhead, hknows]) hincludes hselect
  case embeds =>
    intro hresolves hdot select doc
    have hsegments : Include.segments ⟨declared.name, select⟩ = [declared.name] :=
      Include.segments_of_undotted hdot
    refine ⟨populate_of_knows h hsegments (hknows.mpr hresolves) doc, fun result hresult => ?_⟩
    rw [populated_single store h, hsegments] at hresult
    obtain ⟨found, hfound, hresult⟩ := Validated.bind_eq_ok.mp hresult
    rcases found with _ | ⟨target, related⟩
    · rw [leads_eq store h] at hfound
      exact absurd hfound (Relations.loaded_of_knows (hknows.mpr hresolves) doc).2
    · obtain ⟨shown, hshown, hresult⟩ := Validated.bind_eq_ok.mp hresult
      cases hresult
      exact ⟨target, related, shown, hfound, hshown, rfl⟩
  case misread =>
    intro hdot select doc result hresult
    rw [populated_single store h] at hresult
    have hhead : Include.head ⟨declared.name, select⟩ ≠ declared.name := Include.head_ne_path hdot
    exact Relations.get?_of_embedded hresult hhead.symm

/-- The relation of a post to its tags. -/
def tagsOfPost : Relation :=
  { name := "tags", target := "Tag", cardinality := .many }

/-- The resource of posts. -/
def posts : Resource :=
  { name := "Post", relations := [tagsOfPost] }

/-- The tags of a post are resolved, through the rows that join them. -/
theorem resolves_declared_taggedBlog :
    blogSchema.IsValid ∧ (storeHost blog).Passes State.IsNew taggedBlog ∧
      taggedBlog.isConnected = true ∧ posts ∈ blogSchema.resources ∧
      tagsOfPost ∈ posts.relations ∧ blogSchema.Resolves posts "tags" ∧
      Resolution blogSchema blog taggedBlog posts "tags" := by
  have hpasses : (storeHost blog).Passes State.IsNew taggedBlog :=
    .of_reachable taggedBlog_reachable
  have hposts : posts ∈ blogSchema.resources := .head _
  have htags : tagsOfPost ∈ posts.relations := .head _
  have hresolves : blogSchema.Resolves posts "tags" := .junction rfl (.inl (by decide))
  exact ⟨blogSchema_isValid, hpasses, rfl, hposts, htags, hresolves,
    resolves_declared blogSchema_isValid rfl hpasses rfl hposts htags⟩

/-! ## A declared relation that is not resolved -/

/-- The relation of a user to the tasks that are left. -/
def todosOfUser : Relation :=
  { name := "todos", target := "Task", cardinality := .many }

/-- The schema of users and tasks, in which the relation of users to their tasks is not named like
the reverse of the relation to their owner. -/
def plannerSchema : Schema where
  resources :=
    [{ name := "User", relations := [todosOfUser] },
      { name := "Task", relations := [{ name := "owner", target := "User" }] }]

/-- The store for users and tasks. -/
def planner : Store where
  registry := .ofSchema plannerSchema

/-- The planner with one user. -/
def planned : State :=
  (attemptAll (storeHost planner).call [.connect, .create "User" (.object [])] {}).2

/-- A relation that a user declares is said to be unknown, and is skipped. -/
theorem todos_unknown :
    plannerSchema.IsValid ∧ (storeHost planner).Reachable State.IsNew planned ∧
      planned.isConnected = true ∧ planned.records "User" = [bare 1] ∧
      (planner.registry.relation? "User" "todos") = some todosOfUser ∧
      ((planner.getRelated "User" (.text (Identifier.ofNat 1)) "todos").apply planned).1 =
        .error (.unknownRelation "User" "todos") ∧
      ((planner.findAll "User" { includes := .list [.text "todos"] }).apply planned).1 =
        .ok [(bare 1).formatted] ∧
      ((planner.findAll "User" { includes := .list [.text "todos"] }).apply
        planned).2.around.journal =
          planned.around.journal ++ [Relations.skipped "todos" "User"] := by
  refine ⟨?valid, Host.reachable_attemptAll ⟨{}, rfl⟩ _, rfl, rfl, rfl, rfl, rfl, rfl⟩
  exact ⟨by decide, by decide⟩

end Store

end Docbase
