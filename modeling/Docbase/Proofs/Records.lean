import Docbase.Proofs.Tolerance
import Docbase.Script.Store

/-! # What work on records does not depend on

A store does its work on the connection to its backend, so that it depends on as little of the
state of the store as work on documents does of a connection. Without a backend it does nothing at
all.
-/

namespace Docbase.Store

open Effect Script

/-- The state of a store with a backend of some generation. -/
def State.present (generation : Nat) (c : Connection) : State :=
  { backend := some c.backend, isActive := c.isActive, generation, around := c.around }

/-- The state of a store without a backend, after some generations. -/
def State.absent (generation : Nat) (around : Surroundings) : State :=
  { generation, around }

/-- Two states of a store have backends of one generation whose connections are related, or, where
this may be, have no backend and are the same. -/
inductive Lifted (generation : Nat) (mayLack : Prop) (R : Connection → Connection → Prop) :
    State → State → Prop
  | absent (around : Surroundings) (h : mayLack) :
      Lifted generation mayLack R (.absent generation around) (.absent generation around)
  | present (c d : Connection) (h : R c d) :
      Lifted generation mayLack R (.present generation c) (.present generation d)

theorem Lifted.left {generation : Nat} {mayLack : Prop} {R : Connection → Connection → Prop}
    {s t : State} (h : Lifted generation mayLack R s t) :
    (mayLack ∧ ∃ around, s = .absent generation around) ∨
      ∃ c d, R c d ∧ s = .present generation c := by
  cases h with
  | absent around h => exact Or.inl ⟨h, around, rfl⟩
  | present c d hcd => exact Or.inr ⟨c, d, hcd, rfl⟩

section

variable {α : Type} (generation : Nat) (c : Connection)

@[simp]
theorem isConnected_present : (State.present generation c).isConnected = c.backend.connected := rfl

@[simp]
theorem connection_present : (State.present generation c).connection generation = c := by
  simp [State.present, State.connection]

@[simp]
theorem adopt_present (d : Connection) :
    (State.present generation c).adopt generation d = .present generation d := by
  simp [State.present, State.adopt]

theorem apply_onGeneration_present (effect : Effect Connection α) :
    (onGeneration generation effect).apply (.present generation c) =
      ((effect.apply c).1, .present generation (effect.apply c).2) := by
  rw [onGeneration, apply_onPart, connection_present, adopt_present]

theorem apply_onGeneration_absent (effect : Effect Connection α) (number : Nat)
    (around : Surroundings) :
    (onGeneration number effect).apply (.absent generation around) =
      ((effect.apply ⟨{ database := "" }, false, around⟩).1,
        .absent generation (effect.apply ⟨{ database := "" }, false, around⟩).2.around) := rfl

theorem apply_outside_present (effect : Effect Surroundings α) :
    (outside effect).apply (.present generation c) =
      (((Connection.outside effect).apply c).1,
        .present generation ((Connection.outside effect).apply c).2) := rfl

theorem apply_demand (s : State) :
    demand.apply s = (if s.isConnected then .ok () else .error .notConnected, s) := by
  rw [demand, apply_bind, apply_get]
  cases hs : s.isConnected <;> simp [hs]

theorem apply_onBackend_absent (effect : Effect Connection α) (around : Surroundings) :
    (onBackend effect).apply (.absent generation around) =
      (.error .notConnected, .absent generation around) := by
  rw [onBackend, apply_bind, apply_demand]
  rfl

theorem apply_onBackend_present {c : Connection} (hc : c.backend.connected = true)
    (effect : Effect Connection α) :
    (onBackend effect).apply (.present generation c) =
      ((effect.apply c).1, .present generation (effect.apply c).2) := by
  rw [onBackend, apply_bind, apply_demand, isConnected_present, hc]
  exact apply_onGeneration_present generation c effect

theorem apply_onBackend_disconnected {c : Connection} (hc : c.backend.connected = false)
    (effect : Effect Connection α) :
    (onBackend effect).apply (.present generation c) =
      (.error .notConnected, .present generation c) := by
  rw [onBackend, apply_bind, apply_demand, isConnected_present, hc]
  rfl

end

/-! ## Parts of operations -/

section

variable {generation : Nat} {mayLack : Prop} {R : Connection → Connection → Prop} {α : Type}

theorem onGeneration_agrees {effect : Effect Connection α} (h : Agrees R effect effect) :
    Agrees (Lifted generation mayLack R) (onGeneration generation effect)
      (onGeneration generation effect) := by
  intro s t hst
  unfold AgreesAt
  cases hst with
  | absent around h =>
      rw [apply_onGeneration_absent]
      exact ⟨rfl, .absent _ h⟩
  | present c d hcd =>
      obtain ⟨hsame, hrelated⟩ := h c d hcd
      rw [apply_onGeneration_present, apply_onGeneration_present]
      exact ⟨hsame, .present _ _ hrelated⟩

theorem outside_agrees {effect : Effect Surroundings α}
    (h : Agrees R (Connection.outside effect) (Connection.outside effect)) :
    Agrees (Lifted generation mayLack R) (outside effect) (outside effect) := by
  intro s t hst
  unfold AgreesAt
  cases hst with
  | absent around h => exact ⟨rfl, .absent _ h⟩
  | present c d hcd =>
      obtain ⟨hsame, hrelated⟩ := h c d hcd
      rw [apply_outside_present, apply_outside_present]
      exact ⟨hsame, .present _ _ hrelated⟩

section

variable (hR : Connection.Readable R)

include hR

theorem isConnected_eq {s t : State} (h : Lifted generation mayLack R s t) :
    s.isConnected = t.isConnected := by
  cases h with
  | absent around _ => rfl
  | present c d hcd => exact hR.connected c d hcd

theorem demand_agrees : Agrees (Lifted generation mayLack R) demand demand := by
  intro s t hst
  unfold AgreesAt
  rw [apply_demand, apply_demand, isConnected_eq hR hst]
  exact ⟨rfl, hst⟩

theorem onBackend_agrees {effect : Effect Connection α} (h : Agrees R effect effect) :
    Agrees (Lifted generation mayLack R) (onBackend effect) (onBackend effect) := by
  refine (demand_agrees hR).bind fun _ => Agrees.get_bind fun s t hst => ?_
  have hagrees := onGeneration_agrees h s t hst
  cases hst with
  | absent around _ => exact hagrees
  | present c d hcd => exact hagrees

/-! ## Finding records -/

variable (store : Store) (name : String)

theorem resource_agrees :
    Agrees (Lifted generation mayLack R) (store.resource name) (store.resource name) :=
  (demand_agrees hR).bind fun _ => Agrees.ofExcept _

theorem findOne_agrees (id : Value) :
    Agrees (Lifted generation mayLack R) (onBackend (Connection.findOne name (byId id)))
      (onBackend (Connection.findOne name (byId id))) :=
  onBackend_agrees hR (hR.findOne_agrees name _)

theorem findById_agrees (id : Value) :
    Agrees (Lifted generation mayLack R) (store.findById name id) (store.findById name id) :=
  (resource_agrees hR store name).bind fun _ => (findOne_agrees hR name id).bind fun _ =>
    Agrees.pure _

theorem findAll_agrees (request : Request) :
    Agrees (Lifted generation mayLack R) (store.findAll name request)
      (store.findAll name request) := by
  refine (resource_agrees hR store name).bind fun _ => (Agrees.ofExcept _).bind fun filter =>
    (Agrees.ofExcept _).bind fun order => ?_
  refine (onBackend_agrees hR (hR.find_agrees name _)).bind fun found =>
    (Agrees.ofExcept _).bind fun includes => ?_
  have hpopulate (doc : Document) : Agrees (Lifted generation mayLack R)
      (onBackend (Relations.populate store.registry name doc includes))
      (onBackend (Relations.populate store.registry name doc includes)) :=
    onBackend_agrees hR (Relations.populate_agrees hR store.registry name doc includes)
  refine (Agrees.mapM hpopulate _).bind fun docs => ?_
  split
  next => exact (Agrees.ofExcept _).bind fun _ => Agrees.ofExcept _
  next => exact Agrees.pure docs

theorem getRelated_agrees (id : Value) (relation : String) :
    Agrees (Lifted generation mayLack R) (store.getRelated name id relation)
      (store.getRelated name id relation) := by
  refine (findById_agrees hR store name id).bind fun found => ?_
  cases found with
  | none => exact Agrees.pure _
  | some doc =>
      exact (onBackend_agrees hR (Relations.resolve_agrees hR store.registry name doc
        relation)).bind fun _ => Agrees.pure _

theorem count_agrees (filter : Value) :
    Agrees (Lifted generation mayLack R) (store.count name filter) (store.count name filter) :=
  (resource_agrees hR store name).bind fun _ => (Agrees.ofExcept _).bind fun _ =>
    onBackend_agrees hR (hR.countDocuments_agrees name filter)

theorem aggregate_agrees (pipeline : Value) :
    Agrees (Lifted generation mayLack R) (store.aggregate name pipeline)
      (store.aggregate name pipeline) :=
  (resource_agrees hR store name).bind fun _ =>
    onBackend_agrees hR (hR.aggregate_agrees name pipeline)

theorem embed_agrees (includes : List Include) (doc : Document) :
    Agrees (Lifted generation mayLack R) (StoreCall.embed store name includes doc)
      (StoreCall.embed store name includes doc) := by
  refine Agrees.get_bind fun s t hst => ?_
  have hpopulate : Agrees (Lifted generation mayLack R)
      (onGeneration generation (Relations.populate store.registry name doc includes))
      (onGeneration generation (Relations.populate store.registry name doc includes)) :=
    onGeneration_agrees (Relations.populate_agrees hR store.registry name doc includes)
  cases hst with
  | absent around h => exact ⟨rfl, .absent around h⟩
  | present c d hcd =>
      exact (hpopulate.bind fun _ => Agrees.pure _) _ _ (.present c d hcd)

end

/-! ## New records -/

section

variable (hR : Connection.Tolerant R)

include hR

theorem fillField_agrees (data : Value) (now : String) (doc : Document) (field : Field) :
    Agrees R (Connection.outside (fillField data now doc field))
      (Connection.outside (fillField data now doc field)) := by
  unfold fillField
  split
  next => exact Connection.agrees_outside_bind hR.newId_agrees fun _ => Agrees.pure _
  next =>
    split
    next => exact Agrees.pure _
    next =>
      refine Connection.agrees_outside_bind (Agrees.ofExcept _) fun mentioned => ?_
      split
      next => exact Connection.agrees_outside_bind (Agrees.ofExcept _) fun _ => Agrees.pure _
      next =>
        split
        next => exact Agrees.pure _
        next => exact Agrees.pure _

theorem buildDocument_agrees (resource : Resource) (data : Value) :
    Agrees R (Connection.outside (buildDocument resource data))
      (Connection.outside (buildDocument resource data)) := by
  have hfill (now : String) (fields : List Field) (doc : Document) :
      Agrees R (Connection.outside (fields.foldlM (fillField data now) doc))
        (Connection.outside (fields.foldlM (fillField data now) doc)) := by
    induction fields generalizing doc with
    | nil => exact Agrees.pure doc
    | cons field rest ih =>
        rw [List.foldlM_cons]
        exact Connection.agrees_outside_bind (fillField_agrees hR data now doc field) ih
  exact Connection.agrees_outside_bind hR.readClock_agrees fun now =>
    Connection.agrees_outside_bind (hfill now _ _) fun _ => Agrees.ofExcept _

theorem stamp_agrees (resource : Resource) (changes : Document) :
    Agrees R (Connection.outside (stamp resource changes))
      (Connection.outside (stamp resource changes)) := by
  unfold stamp
  split
  next => exact Connection.agrees_outside_bind hR.readClock_agrees fun _ => Agrees.pure _
  next => exact Agrees.pure _

/-! ## Creating, changing and deleting records -/

variable (store : Store) (name : String)

theorem create_agrees (data : Value) :
    Agrees (Lifted generation mayLack R) (store.create name data) (store.create name data) :=
  (resource_agrees hR.readable store name).bind fun resource => (Agrees.ofExcept _).bind fun _ =>
    (outside_agrees (buildDocument_agrees hR resource data)).bind fun doc =>
      (Agrees.ofExcept _).bind fun _ =>
        (onBackend_agrees hR.readable (hR.insertOne_agrees name (.object doc))).bind fun _ =>
          Agrees.pure _

theorem update_agrees (id data : Value) :
    Agrees (Lifted generation mayLack R) (store.update name id data)
      (store.update name id data) := by
  refine (resource_agrees hR.readable store name).bind fun resource =>
    (findOne_agrees hR.readable name id).bind fun found => ?_
  cases found with
  | none => exact Agrees.throw _
  | some _ =>
      refine (Agrees.ofExcept _).bind fun changes => (Agrees.ofExcept _).bind fun _ =>
        (outside_agrees (stamp_agrees hR resource changes)).bind fun changes => ?_
      refine (onBackend_agrees hR.readable (hR.toLegible.updateOne_agrees name _ _)).bind fun _ =>
        (findOne_agrees hR.readable name id).bind fun updated => ?_
      cases updated with
      | none => exact Agrees.throw _
      | some doc => exact Agrees.pure _

theorem delete_agrees (id : Value) :
    Agrees (Lifted generation mayLack R) (store.delete name id) (store.delete name id) :=
  (resource_agrees hR.readable store name).bind fun _ =>
    (onBackend_agrees hR.readable (hR.toLegible.deleteOne_agrees name _)).bind fun _ =>
      Agrees.pure _

end

end

end Docbase.Store

namespace Docbase.Script.StoreCall

open Effect Store

/-- Whether a call is about records: any but those that connect and disconnect. -/
def isWork : StoreCall → Bool
  | .connect => false
  | .disconnect => false
  | _ => true

variable {generation : Nat} {mayLack : Prop} {R : Connection → Connection → Prop}

/-- Whether a call asks for records. -/
def isQuery : StoreCall → Bool
  | .findById .. => true
  | .findAll .. => true
  | .getRelated .. => true
  | .count .. => true
  | .aggregate .. => true
  | .populate .. => true
  | .populateMany .. => true
  | _ => false

/-- Asking for records has the same outcome on two stores that agree on what it depends on. -/
theorem query_agrees (hR : Connection.Readable R) (store : Store) {call : StoreCall}
    (hcall : call.isQuery = true) :
    Agrees (Lifted generation mayLack R) (call.run store) (call.run store) := by
  cases call with
  | findById name id => exact (findById_agrees hR store name id).bind fun _ => Agrees.pure _
  | findAll name request => exact (findAll_agrees hR store name request).bind fun _ => Agrees.pure _
  | getRelated name id relation =>
      exact (getRelated_agrees hR store name id relation).bind fun _ => Agrees.pure _
  | count name filter => exact (count_agrees hR store name filter).bind fun _ => Agrees.pure _
  | aggregate name pipeline =>
      exact (aggregate_agrees hR store name pipeline).bind fun _ => Agrees.pure _
  | populate name doc includes =>
      exact (Agrees.ofExcept _).bind fun doc => (Agrees.ofExcept _).bind fun includes =>
        (embed_agrees hR store name includes doc).bind fun _ => Agrees.pure _
  | populateMany name docs includes =>
      refine (Agrees.ofExcept _).bind fun includes => (Agrees.ofExcept _).bind fun docs => ?_
      split
      next => exact Agrees.pure _
      next =>
        exact (Agrees.mapM (fun _ => (Agrees.ofExcept _).bind fun doc =>
          embed_agrees hR store name includes doc) docs).bind fun _ => Agrees.pure _
  | _ => cases hcall

/-- Work on records has the same outcome on two stores that agree on what it depends on. -/
theorem work_agrees (hR : Connection.Tolerant R) (store : Store) {call : StoreCall}
    (hcall : call.isWork = true) :
    Agrees (Lifted generation mayLack R) (call.run store) (call.run store) := by
  cases call with
  | connect => cases hcall
  | disconnect => cases hcall
  | isConnected =>
      refine Agrees.get_bind fun s t hst => ?_
      rw [isConnected_eq hR.readable hst]
      exact ⟨rfl, hst⟩
  | listCollections =>
      exact (onBackend_agrees hR.readable hR.listCollections_agrees).bind fun _ =>
        Agrees.pure _
  | resources => exact Agrees.pure _
  | resource name => exact Agrees.pure _
  | create name data => exact (create_agrees hR store name data).bind fun _ => Agrees.pure _
  | update name id data => exact (update_agrees hR store name id data).bind fun _ => Agrees.pure _
  | delete name id => exact (delete_agrees hR store name id).bind fun _ => Agrees.pure _
  | _ => exact query_agrees hR.readable store rfl

end Docbase.Script.StoreCall
