import Docbase.Proofs.Embedding

/-! # Longer ways, name by name

A longer way puts under its first name what the relation of this name leads to, with what the rest
of the way embeds in each of the documents. A document that already shows something under the name
is the exception: the way goes on from there, wherever it came from, and what is no document there
is refused.
-/

namespace Docbase

open Effect Script Validated

/-- Makes something of each of related documents, in order. -/
def Related.eachM (make : Document → Except Fault Document) : Related → Except Fault Related
  | one none => .ok (one none)
  | one (some doc) => (make doc).map fun made => one (some made)
  | many docs => (docs.mapM make).map many

namespace Document

/-- Fields are kept without fail whose names are texts, or anything else that cannot change. -/
theorem project_answered {names : List Value} (hnames : ∀ name ∈ names, name.isMutable = false)
    (doc : Document) : Answered (doc.project names) := by
  refine (Answered.foldlM ?_ []).bind fun named _ => ⟨_, rfl⟩
  intro result name hname
  have hfixed := hnames name hname
  cases name with
  | list items => cases hfixed
  | object fields => cases hfixed
  | _ => exact ⟨_, rfl⟩

/-- What is nothing, a list or a document is all that documents can be found in. -/
theorem ofValue_refused {item : Value} (hfixed : item.isMutable = false)
    (hempty : item ≠ .text "") : ∃ fault, ofValue item = .error fault := by
  cases item with
  | list items => cases hfixed
  | object fields => cases hfixed
  | text s =>
      -- Of a text the first character is no pair.
      obtain ⟨c, rest, hs⟩ : ∃ c rest, s.toList = c :: rest := by
        cases hs : s.toList with
        | nil => exact absurd (congrArg Value.text (String.toList_injective hs)) hempty
        | cons c rest => exact ⟨c, rest, rfl⟩
      have hpair : Value.pair (.text (String.ofList [c])) = .error .badValue := by
        simp only [Value.pair, Value.items, String.toList_ofList]
        rfl
      refine ⟨.badValue, ?_⟩
      simp only [ofValue, Value.items, hs, List.map_cons]
      change (List.mapM Value.pair _ >>= fun _ => _) = _
      rw [List.mapM_cons, hpair]
      rfl
  | _ => exact ⟨_, rfl⟩

end Document

namespace Relations

theorem descend_of_fixed {f : Document → Except Fault Document} {item : Value}
    (hnull : item.isNull = false) (hfixed : item.isMutable = false) :
    descend f item = within f item := by
  cases item with
  | null => cases hnull
  | list items => cases hfixed
  | _ => rfl

theorem descend_list (f : Document → Except Fault Document) (docs : List Document) :
    descend f (.list (docs.map Value.object)) =
      (docs.mapM f).map fun made => .list (made.map Value.object) := by
  have hitems : (docs.map Value.object).mapM (within f) =
      (docs.mapM f).map (List.map Value.object) := by
    induction docs with
    | nil => rfl
    | cons doc rest ih =>
        rw [List.map_cons, List.mapM_cons, List.mapM_cons, ih, within_object]
        cases f doc with
        | error fault => rfl
        | ok made => cases rest.mapM f <;> rfl
  rw [descend, hitems]
  cases docs.mapM f <;> rfl

theorem descend_toValue (f : Document → Except Fault Document) (related : Related) :
    descend f related.toValue = (related.eachM f).map Related.toValue := by
  rcases related with (_ | doc) | docs
  · rfl
  · rw [Related.toValue, descend_object, Related.eachM]
    cases f doc <;> rfl
  · rw [Related.toValue, descend_list, Related.eachM]
    cases docs.mapM f <;> rfl

/-- Every relation on a way is loaded without a fault, and none of the documents on it shows
anything under the name that the way goes on by. -/
def Clear (load : Load) : List String → String → Document → Prop
  | [], _, _ => True
  | [name], resource, doc => Answered (load resource doc name)
  | name :: next :: more, resource, doc =>
    ∃ found, load resource doc name = .ok found ∧
      ∀ target related, found = some (target, related) →
        (doc.get name).isNull = true ∧
          ∀ inner ∈ related.docs, Clear load (next :: more) target inner

theorem project_answered {select : Option (List Value)}
    (hselect : ∀ names, select = some names → ∀ name ∈ names, name.isMutable = false)
    (related : Related) : Answered (related.project select) := by
  cases select with
  | none => exact ⟨related, rfl⟩
  | some names =>
      have hnames := hselect names rfl
      rcases related with (_ | doc) | docs
      · exact ⟨.one none, rfl⟩
      · exact (doc.project_answered hnames).bind fun result _ => ⟨.one (some result), rfl⟩
      · exact (Answered.mapM fun doc _ => doc.project_answered hnames).bind fun results _ =>
          ⟨.many results, rfl⟩

theorem eachM_answered {make : Document → Except Fault Document} {related : Related}
    (h : ∀ doc ∈ related.docs, Answered (make doc)) : Answered (related.eachM make) := by
  rcases related with (_ | doc) | docs
  · exact ⟨.one none, rfl⟩
  · exact (h doc (by simp [Related.docs])).map _
  · exact (Answered.mapM h).map _

theorem embedded_answered {load : Load} {select : Option (List Value)}
    (hselect : ∀ names, select = some names → ∀ name ∈ names, name.isMutable = false)
    {segments : List String} {resource : String} {doc : Document}
    (hclear : Clear load segments resource doc) :
    Answered (embedded load select segments resource doc) := by
  induction segments generalizing resource doc with
  | nil => exact ⟨doc, rfl⟩
  | cons name rest ih =>
      cases rest with
      | nil =>
          refine Answered.bind hclear fun found _ => ?_
          rcases found with _ | ⟨target, related⟩
          · exact ⟨doc, rfl⟩
          · exact (project_answered hselect related).bind fun shown _ => ⟨_, rfl⟩
      | cons next more =>
          obtain ⟨found, hfound, hon⟩ := hclear
          rw [embedded]
          refine Answered.bind ⟨found, hfound⟩ fun _ hsame => ?_
          cases hfound.symm.trans hsame
          rcases found with _ | ⟨target, related⟩
          · exact ⟨doc, rfl⟩
          · obtain ⟨hnull, hinner⟩ := hon target related rfl
            dsimp only
            rw [present, if_pos hnull, descend_toValue]
            exact ((eachM_answered fun inner hmem => ih (hinner inner hmem)).map _).bind
              fun value _ => ⟨_, rfl⟩

end Relations

namespace Store

variable (store : Store) (s : State)

/-- What a relation of a document leads to in a state. -/
def leads : Relations.Load := fun resource doc name =>
  ((onBackend (Relations.load? store.registry resource doc name)).apply s).1

/-- A document with what includes embed in it in a state. -/
def populated (resource : String) (doc : Document) (includes : List Include) :
    Except Fault Document :=
  ((onBackend (Relations.populate store.registry resource doc includes)).apply s).1

section

variable {s} {records : String → List Document} (h : s.Shows records)

include h

theorem leads_eq : leads store s = Relations.loaded store.registry records := by
  funext resource doc name
  exact (onBackend_yields (Relations.load?_yields store.registry resource doc name) s h).1

theorem populated_eq (resource : String) (doc : Document) (includes : List Include) :
    populated store s resource doc includes = includes.foldlM (fun doc spec =>
      Relations.embedded (leads store s) spec.select spec.segments resource doc) doc := by
  rw [leads_eq store h]
  exact (onBackend_yields (Relations.populate_yields store.registry resource doc includes) s h).1

theorem populated_single (resource : String) (doc : Document) (spec : Include) :
    populated store s resource doc [spec] =
      Relations.embedded (leads store s) spec.select spec.segments resource doc := by
  rw [populated_eq store h]
  exact bind_pure _

end

/-- What it means that a longer way from a document is followed name by name, when the relation of
its first name leads somewhere. -/
structure Decomposes (resource : String) (doc : Document) (spec : Include) (path target : String)
    (related : Related) : Prop where
  /-- A document that shows nothing under the first name shows there what the relation leads to,
  with what the rest of the way embeds. -/
  decomposed : (doc.get spec.head).isNull = true →
    populated store s resource doc [spec] =
      (related.eachM fun found => populated store s target found [⟨path, spec.select⟩]).map
        fun made => Keyed.put doc spec.head made.toValue
  /-- Documents that it shows there already are gone on from, whatever the relation leads to. -/
  kept : ∀ held : Related, held.toValue.isNull = false → doc.get spec.head = held.toValue →
    populated store s resource doc [spec] =
      (held.eachM fun found => populated store s target found [⟨path, spec.select⟩]).map
        fun made => Keyed.put doc spec.head made.toValue
  /-- Anything else that it shows there is refused, but for the empty text. -/
  refused : (doc.get spec.head).isNull = false → (doc.get spec.head).isMutable = false →
    doc.get spec.head ≠ .text "" → ∃ fault, populated store s resource doc [spec] = .error fault
  /-- Under other names nothing changes. -/
  others : ∀ result, populated store s resource doc [spec] = .ok result →
    ∀ name, name ≠ spec.head → result.get name = doc.get name
  /-- There is no fault unless a relation on the way fails to be loaded, a document on it shows
  something under the name that the way goes on by, or the fields to keep are no names. -/
  answered : Relations.Clear (leads store s) spec.segments resource doc →
    (∀ names, spec.select = some names → ∀ name ∈ names, name.isMutable = false) →
    Answered (populated store s resource doc [spec])

section

variable {s}

/-- A longer way goes through the documents that stand under its first name. -/
theorem populated_nested {records : String → List Document} (h : s.Shows records)
    {resource : String} {doc : Document} {spec : Include} {path : String}
    (hrest : spec.rest? = some path) {target : String} {related : Related}
    (hleads : leads store s resource doc spec.head = .ok (some (target, related))) :
    populated store s resource doc [spec] =
      (Relations.descend (fun found => populated store s target found [⟨path, spec.select⟩])
        (Relations.present doc spec.head related)).map (Keyed.put doc spec.head) := by
  have hinner : (fun found => populated store s target found [⟨path, spec.select⟩]) =
      Relations.embedded (leads store s) spec.select (Include.segments ⟨path, spec.select⟩)
        target :=
    funext fun found => populated_single store h target found _
  rw [populated_single store h, Include.segments_eq_cons hrest spec.select, hinner]
  obtain ⟨more, hsegments⟩ := Include.exists_segments_eq ⟨path, spec.select⟩
  rw [hsegments, Relations.embedded, hleads]
  change (Relations.descend _ _ >>= fun value => pure (Keyed.put doc spec.head value)) = _
  cases Relations.descend _ _ <;> rfl

/-- Including a longer way is including its first name, and then the rest of it in each of the
documents that stand there. -/
theorem nested_decomposes (hpasses : (storeHost store).Passes State.IsNew s) {resource : String}
    {doc : Document} (hdoc : doc ∈ s.records resource) {spec : Include} {path : String}
    (hrest : spec.rest? = some path) {target : String} {related : Related}
    (hleads : leads store s resource doc.formatted spec.head = .ok (some (target, related))) :
    Decomposes store s resource doc.formatted spec path target related := by
  have h := shows_of_mem hpasses hdoc
  have hnested := populated_nested store h hrest hleads
  generalize doc.formatted = doc at *
  have hgoOn (found : Related) (hfound : Relations.present doc spec.head related = found.toValue) :
      populated store s resource doc [spec] =
        (found.eachM fun found => populated store s target found [⟨path, spec.select⟩]).map
          fun made => Keyed.put doc spec.head made.toValue := by
    rw [hnested, hfound, Relations.descend_toValue]
    cases found.eachM _ <;> rfl
  constructor
  case decomposed =>
    intro hnull
    exact hgoOn related (if_pos hnull)
  case kept =>
    intro held hheld hshown
    refine hgoOn held ?_
    rw [Relations.present, hshown, hheld]
    rfl
  case refused =>
    intro hnull hfixed hempty
    obtain ⟨fault, hfault⟩ := Document.ofValue_refused hfixed hempty
    refine ⟨fault, ?_⟩
    rw [hnested, Relations.present, hnull, if_neg Bool.false_ne_true,
      Relations.descend_of_fixed hnull hfixed, Relations.within, hfault]
    rfl
  case others =>
    intro result hresult name hname
    rw [hnested] at hresult
    obtain ⟨value, -, rfl⟩ := map_eq_ok.mp hresult
    rw [Document.get, Document.get, Keyed.get?_put_of_ne _ _ hname]
  case answered =>
    intro hclear hselect
    rw [populated_single store h]
    exact Relations.embedded_answered hselect hclear

end

/-! ## A relation that is named like its own key -/

/-- The schema of users and their tasks, in which the relation to the owner is named like the key
that it is kept under. -/
def crewSchema : Schema where
  resources :=
    [{ name := "User" },
      { name := "Task",
        relations := [{ name := "ownerId", target := "User", inverse := some "tasks" }] }]

/-- The store of users and tasks. -/
def crew : Store where
  registry := .ofSchema crewSchema

/-- The state of the crew in which it has some records, and a number of identifiers have been
taken. -/
def crewOf (lastId : Nat) (users tasks : List Document) : State :=
  .present 1
    { backend :=
        { database := "docstore", connected := true,
          collections :=
            [("User", { name := "User", stored := users.map Collection.entry }),
              ("Task", { name := "Task", stored := tasks.map Collection.entry })],
          registered := ["User", "Task"] },
      around := { lastId, journal := (crew.connect.apply {}).2.around.journal } }

/-- The task of a number that the user of another number owns. -/
def taskOf (n owner : Nat) : Document :=
  [("ownerId", .text (Identifier.ofNat owner)), ("_id", .text (Identifier.ofNat n))]

/-- The crew of one user and a task of theirs. -/
def busyCrew : State :=
  crewOf 2 [bare 1] [taskOf 2 1]

theorem crewSchema_isValid : crewSchema.IsValid where
  distinct := by decide
  closed := by decide

theorem crewOf_connect : (((storeHost crew).call .connect).apply {}).2 = crewOf 0 [] [] := rfl

theorem crewOf_create_user : (((storeHost crew).call (.create "User" (.object []))).apply
    (crewOf 0 [] [])).2 = crewOf 1 [bare 1] [] := rfl

theorem crewOf_create_task : (((storeHost crew).call (.create "Task"
    (.object [("ownerId", .text (Identifier.ofNat 1))]))).apply (crewOf 1 [bare 1] [])).2 =
      busyCrew := rfl

theorem busyCrew_reachable : (storeHost crew).Reachable State.IsNew busyCrew := by
  have hreachable : (storeHost crew).Reachable State.IsNew _ :=
    Host.reachable_attemptAll ⟨{}, rfl⟩ [.connect, .create "User" (.object []),
      .create "Task" (.object [("ownerId", .text (Identifier.ofNat 1))])]
  simp only [attemptAll, crewOf_connect, crewOf_create_user, crewOf_create_task] at hreachable
  exact hreachable

theorem nested_decomposes_busyCrew :
    (storeHost crew).Passes State.IsNew busyCrew ∧ bare 1 ∈ busyCrew.records "User" ∧
      Include.rest? ⟨"tasks.ownerId", some [.text "name"]⟩ = some "ownerId" ∧
      leads crew busyCrew "User" (bare 1).formatted "tasks" =
        .ok (some ("Task", .many [(taskOf 2 1).formatted])) ∧
      Decomposes crew busyCrew "User" (bare 1).formatted
        ⟨"tasks.ownerId", some [.text "name"]⟩ "ownerId" "Task"
        (.many [(taskOf 2 1).formatted]) := by
  have hpasses : (storeHost crew).Passes State.IsNew busyCrew :=
    .of_reachable busyCrew_reachable
  exact ⟨hpasses, .head _, rfl, rfl, nested_decomposes crew hpasses (.head _) rfl rfl⟩

/-- The owner of a task is there, and its tasks can be embedded in it, but a way from the task that
goes on from its owner is refused: the key stands under the name of the relation. -/
theorem ownerId_tasks_refused :
    crewSchema.IsValid ∧ (storeHost crew).Reachable State.IsNew busyCrew ∧
      busyCrew.records "Task" = [taskOf 2 1] ∧
      leads crew busyCrew "Task" (taskOf 2 1).formatted "ownerId" =
        .ok (some ("User", .one (some (bare 1).formatted))) ∧
      populated crew busyCrew "User" (bare 1).formatted [⟨"tasks", none⟩] =
        .ok (Keyed.put (bare 1).formatted "tasks" (.list [.object (taskOf 2 1).formatted])) ∧
      populated crew busyCrew "Task" (taskOf 2 1).formatted [⟨"ownerId.tasks", none⟩] =
        .error .badValue :=
  ⟨crewSchema_isValid, busyCrew_reachable, rfl, rfl, rfl, rfl⟩

end Store

end Docbase
