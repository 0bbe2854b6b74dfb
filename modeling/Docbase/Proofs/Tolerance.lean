import Docbase.Proofs.Collection
import Docbase.Proofs.Connection
import Docbase.Relations
import Docbase.Script.Backend

/-! # What work on documents does not depend on

Work on documents reads of a connection whether it is connected, the documents of its collections,
the names listed, and what identifiers and times are due next; and it changes nothing but the
documents of a collection, what is due next, and the journal. So it has the same outcome on any two
connections that agree on what it reads, and keeps whatever such changes keep.
-/

namespace Docbase

open Effect

/-- Two outcomes that a function makes the same are the same fault, or values that it makes the
same. -/
theorem same_or_both_ok {α β : Type} {f : α → β} {left right : Except Fault α}
    (h : left.map f = right.map f) :
    (∃ fault, left = .error fault ∧ right = .error fault) ∨
      ∃ value value', left = .ok value ∧ right = .ok value' ∧ f value = f value' := by
  cases left with
  | error fault =>
      cases right with
      | error fault' =>
          cases h
          exact Or.inl ⟨fault, rfl, rfl⟩
      | ok value => cases h
  | ok value =>
      cases right with
      | error fault => cases h
      | ok value' => exact Or.inr ⟨value, value', rfl, rfl, Except.ok.inj h⟩

namespace Collection

/-- What an operation may make of the documents of a collection: it leaves them as they are, stores
one more, or changes or removes one. -/
inductive Revision : List Stored → List Stored → Prop
  | same (stored : List Stored) : Revision stored stored
  | inserted {c after : Collection} {id : Value} {doc : Document} (hid : id.isTruthy = true)
      (h : c.insert id doc = .ok after) : Revision c.stored after.stored
  | changed (stored : List Stored) (test : Stored → Bool) (changes : Document) :
      Revision stored (replaceFirst test (Collection.changed changes) stored)
  | removed (stored : List Stored) (test : Stored → Bool) :
      Revision stored (removeFirst test stored)

theorem revision_update {c after : Collection} {filter : Filter} {changes : Value} {count : Nat}
    (h : c.update filter changes = .ok (after, count)) : Revision c.stored after.stored := by
  unfold Collection.update at h
  split at h
  next => cases h; exact .same _
  next =>
    cases hchanges : Document.ofValue changes with
    | error fault => rw [hchanges] at h; cases h
    | ok doc => rw [hchanges] at h; cases h; exact .changed _ _ _

theorem revision_requested {c after : Collection} {filter update : Value} {count : Nat}
    (h : c.requested filter update = .ok (after, count)) : Revision c.stored after.stored := by
  unfold requested at h
  split at h
  next => exact revision_update h
  next => cases h
  next => cases h

theorem revision_delete (c : Collection) (filter : Filter) :
    Revision c.stored (c.delete filter).1.stored := by
  unfold delete
  split
  next => exact .same _
  next => exact .removed _ _

/-- An update changes nothing of a collection but its documents. -/
theorem eq_of_update {c after : Collection} {filter : Filter} {changes : Value} {count : Nat}
    (h : c.update filter changes = .ok (after, count)) :
    after = { c with stored := after.stored } := by
  unfold Collection.update at h
  split at h
  next => cases h; rfl
  next =>
    cases hchanges : Document.ofValue changes with
    | error fault => rw [hchanges] at h; cases h
    | ok doc => rw [hchanges] at h; cases h; rfl

theorem eq_of_requested {c after : Collection} {filter update : Value} {count : Nat}
    (h : c.requested filter update = .ok (after, count)) :
    after = { c with stored := after.stored } := by
  unfold requested at h
  split at h
  next => exact eq_of_update h
  next => cases h
  next => cases h

theorem eq_of_insert {c after : Collection} {id : Value} {doc : Document}
    (h : c.insert id doc = .ok after) : after = { c with stored := after.stored } := by
  obtain ⟨-, -, rfl⟩ := insert_eq_ok.mp h
  rfl

theorem delete_fst (c : Collection) (filter : Filter) :
    (c.delete filter).1 = { c with stored := (c.delete filter).1.stored } := by
  unfold delete
  split <;> rfl

/-- A snapshot makes no difference to an update. -/
theorem update_discardSnapshot (c : Collection) (filter : Filter) (changes : Value) :
    c.discardSnapshot.update filter changes =
      (c.update filter changes).map fun result => (result.1.discardSnapshot, result.2) := by
  unfold Collection.update
  change (if (c.matching filter).isEmpty then _ else _) = _
  split
  next => rfl
  next => cases Document.ofValue changes <;> rfl

theorem requested_discardSnapshot (c : Collection) (filter update : Value) :
    c.discardSnapshot.requested filter update =
      (c.requested filter update).map fun result => (result.1.discardSnapshot, result.2) := by
  unfold requested
  split
  next => exact update_discardSnapshot c _ _
  next => rfl
  next => rfl

theorem insert_discardSnapshot (c : Collection) (id : Value) (doc : Document) :
    c.discardSnapshot.insert id doc = (c.insert id doc).map discardSnapshot := by
  unfold Collection.insert
  split
  next => rfl
  next =>
    change (if (c.lookup? id).isSome then _ else _) = _
    split <;> rfl

theorem delete_discardSnapshot (c : Collection) (filter : Filter) :
    c.discardSnapshot.delete filter =
      ((c.delete filter).1.discardSnapshot, (c.delete filter).2) := by
  unfold delete
  change (if (c.matching filter).isEmpty then _ else _) = _
  split <;> rfl

end Collection

namespace Connection

/-- The connection after the documents of a collection have become others. -/
def rewritten (c : Connection) (name : String) (stored : List Stored) : Connection :=
  c.replaced name { c.backend.collection name with stored }

/-- The connection after the clock has gone on to a time. -/
def ticked (c : Connection) (now : Instant) : Connection :=
  { c with around := { c.around with now } }

/-- A relation of connections that reading documents neither sees nor breaks. -/
structure Readable (R : Connection → Connection → Prop) : Prop where
  connected : ∀ c d, R c d → c.backend.connected = d.backend.connected
  collection : ∀ c d, R c d → ∀ name,
    (c.backend.collection name).discardSnapshot = (d.backend.collection name).discardSnapshot
  touched : ∀ c d, R c d → ∀ name, R (c.touched name) (d.touched name)
  noted : ∀ c d, R c d → ∀ entries, R (c.noted entries) (d.noted entries)

/-- A relation of connections that reading documents, changing and removing them neither sees nor
breaks. -/
structure Legible (R : Connection → Connection → Prop) : Prop where
  connected : ∀ c d, R c d → c.backend.connected = d.backend.connected
  collection : ∀ c d, R c d → ∀ name,
    (c.backend.collection name).discardSnapshot = (d.backend.collection name).discardSnapshot
  rewritten : ∀ c d, R c d → ∀ name stored,
    Collection.Revision (c.backend.collection name).stored stored →
      R (c.rewritten name stored) (d.rewritten name stored)
  noted : ∀ c d, R c d → ∀ entries, R (c.noted entries) (d.noted entries)

/-- A relation of connections that no work on documents sees or breaks, not even work that takes
identifiers and times from outside. -/
structure Tolerant (R : Connection → Connection → Prop) : Prop extends Legible R where
  registered : ∀ c d, R c d → c.backend.registered = d.backend.registered
  lastId : ∀ c d, R c d → c.around.lastId = d.around.lastId
  clock : ∀ c d, R c d → c.around.now = d.around.now ∧ c.around.tick = d.around.tick
  numbered : ∀ c d, R c d → ∀ lastId, R (c.numbered lastId) (d.numbered lastId)
  ticked : ∀ c d, R c d → ∀ now, R (c.ticked now) (d.ticked now)

/-- A property of connections that work on documents cannot break. -/
structure Durable (I : Connection → Prop) : Prop where
  rewritten : ∀ c, I c → ∀ name stored,
    Collection.Revision (c.backend.collection name).stored stored → I (c.rewritten name stored)
  numbered : ∀ c, I c → ∀ lastId, I (c.numbered lastId)
  ticked : ∀ c, I c → ∀ now, I (c.ticked now)
  noted : ∀ c, I c → ∀ entries, I (c.noted entries)

theorem Durable.tolerant {I : Connection → Prop} (h : Durable I) :
    Tolerant fun c d => c = d ∧ I c where
  connected := by rintro c _ ⟨rfl, -⟩; rfl
  registered := by rintro c _ ⟨rfl, -⟩; rfl
  collection := by rintro c _ ⟨rfl, -⟩ name; rfl
  lastId := by rintro c _ ⟨rfl, -⟩; rfl
  clock := by rintro c _ ⟨rfl, -⟩; exact ⟨rfl, rfl⟩
  rewritten := by
    rintro c _ ⟨rfl, hc⟩ name stored hrevision
    exact ⟨rfl, h.rewritten c hc name stored hrevision⟩
  numbered := by rintro c _ ⟨rfl, hc⟩ lastId; exact ⟨rfl, h.numbered c hc lastId⟩
  ticked := by rintro c _ ⟨rfl, hc⟩ now; exact ⟨rfl, h.ticked c hc now⟩
  noted := by rintro c _ ⟨rfl, hc⟩ entries; exact ⟨rfl, h.noted c hc entries⟩

end Connection

/-! ## The journal -/

namespace Pipeline

/-- Two journals have grown by the same entries. -/
def SameNotes (start start' journal journal' : Journal) : Prop :=
  ∃ entries, journal = start ++ entries ∧ journal' = start' ++ entries

variable (start start' : Journal)

theorem note_agrees (message : String) :
    Agrees (SameNotes start start') (note message) (note message) := by
  refine Agrees.modify ?_
  rintro journal journal' ⟨entries, rfl, rfl⟩
  exact ⟨_, List.append_assoc _ _ _, List.append_assoc _ _ _⟩

theorem summarize_agrees (docs : List Document) (accumulators : List (String × Value))
    (result : Document) :
    Agrees (SameNotes start start') (summarize docs accumulators result)
      (summarize docs accumulators result) := by
  induction accumulators generalizing result with
  | nil => exact Agrees.pure result
  | cons first rest ih =>
      obtain ⟨name, accumulator⟩ := first
      rw [summarize]
      split
      next => exact ih result
      next =>
        split
        next => exact Agrees.throw _
        next key operand _ =>
          split
          next => exact (note_agrees start start' _).bind fun _ => ih result
          next => exact (Agrees.ofExcept _).bind fun _ => ih _

theorem group_agrees (docs : List Document) (spec : Value) :
    Agrees (SameNotes start start') (group docs spec) (group docs spec) := by
  cases spec with
  | object fields =>
      exact (Agrees.ofExcept _).bind fun _ => Agrees.mapM
        (fun found : Group => summarize_agrees start start' found.docs fields _) _
  | _ => exact Agrees.throw _

theorem stage_agrees (docs : List Document) (spec : Value) :
    Agrees (SameNotes start start') (stage docs spec) (stage docs spec) := by
  unfold stage
  split
  next => exact Agrees.pure docs
  next name spec =>
    split
    next => exact (Agrees.ofExcept _).bind fun _ => Agrees.pure _
    next =>
      split
      next => exact group_agrees start start' docs spec
      next => exact (note_agrees start start' _).bind fun _ => Agrees.pure docs
  next => exact Agrees.throw _
  next => exact Agrees.throw _

theorem passed_agrees (batch : Batch) (spec : Value) :
    Agrees (SameNotes start start') (batch.passed spec) (batch.passed spec) := by
  unfold Batch.passed
  cases batch.stalls spec with
  | true => exact Agrees.throw _
  | false => exact (stage_agrees start start' batch.docs spec).bind fun _ => Agrees.pure _

/-- What a pipeline gives does not depend on the journal, and it only adds to the journal. -/
theorem run_agrees (docs : List Document) (pipeline : Value) :
    Agrees (SameNotes start start') (run docs pipeline) (run docs pipeline) :=
  (Agrees.ofExcept _).bind fun _ =>
    (Agrees.foldlM (passed_agrees start start') (.given docs) _).bind fun _ => Agrees.pure _

end Pipeline

/-! ## Work on documents -/

namespace Connection

variable {R : Connection → Connection → Prop}

/-- Bringing a collection into being is a revision that leaves its documents as they are. -/
theorem Legible.readable (hR : Legible R) : Readable R where
  connected := hR.connected
  collection := hR.collection
  touched := by
    intro c d h name
    have hstored : (c.backend.collection name).stored = (d.backend.collection name).stored :=
      (congrArg Collection.stored (hR.collection c d h name) :)
    have hrewritten := hR.rewritten c d h name _ (.same _)
    have hright : d.rewritten name (c.backend.collection name).stored = d.touched name := by
      rw [hstored]
      rfl
    rw [hright] at hrewritten
    exact hrewritten
  noted := hR.noted

theorem Tolerant.readable (hR : Tolerant R) : Readable R :=
  hR.toLegible.readable

namespace Readable

variable (hR : Readable R)

include hR

/-- An operation that uses a collection does nothing without a connection, so that it agrees with
itself if it does where there is one. -/
theorem agrees_of_use {α : Type} {effect : Effect Connection α} (name : String)
    {next : Collection → Effect Connection α} (heffect : effect = use name >>= next)
    (hsome : ∀ c d, R c d → c.backend.connected = true → d.backend.connected = true →
      AgreesAt R effect effect c d) :
    Agrees R effect effect := by
  intro c d h
  cases hc : c.backend.connected with
  | true => exact hsome c d h hc ((hR.connected c d h).symm.trans hc)
  | false =>
      have hd := (hR.connected c d h).symm.trans hc
      unfold AgreesAt
      rw [heffect, apply_use_bind_of_disconnected name next hc,
        apply_use_bind_of_disconnected name next hd]
      exact ⟨rfl, h⟩

/-- An operation that answers from the documents of a collection, and does no more than bring it
into being, agrees with itself. -/
theorem agrees_of_reads {α : Type} {effect : Effect Connection α} (name : String)
    {next : Collection → Effect Connection α} (heffect : effect = use name >>= next)
    (answer : Collection → Except Fault α) (hanswer : ∀ c, answer c.discardSnapshot = answer c)
    (hsome : ∀ c, c.backend.connected = true →
      effect.apply c = (answer (c.backend.collection name), c.touched name)) :
    Agrees R effect effect := by
  refine hR.agrees_of_use name heffect fun c d h hc hd => ?_
  unfold AgreesAt
  rw [hsome c hc, hsome d hd, ← hanswer (c.backend.collection name), hR.collection c d h name,
    hanswer]
  exact ⟨rfl, hR.touched c d h name⟩

theorem findOne_agrees (name : String) (filter : Value) :
    Agrees R (findOne name filter) (findOne name filter) :=
  hR.agrees_of_reads name rfl (fun c => (Filter.read filter).map c.findOne) (fun _ => rfl)
    fun _ hc => apply_findOne hc name filter

theorem find_agrees (name : String) (search : Search) :
    Agrees R (find name search) (find name search) :=
  hR.agrees_of_reads name rfl (fun c => c.find search) (fun _ => rfl)
    fun _ hc => apply_find hc name search

theorem countDocuments_agrees (name : String) (filter : Value) :
    Agrees R (countDocuments name filter) (countDocuments name filter) :=
  hR.agrees_of_reads name rfl (fun c => (Filter.read filter).map c.count) (fun _ => rfl)
    fun _ hc => apply_countDocuments hc name filter

theorem journaled_agrees {α : Type} {effect : Effect Journal α}
    (heffect : ∀ start start', Agrees (Pipeline.SameNotes start start') effect effect) :
    Agrees R (outside (Surroundings.journaled effect))
      (outside (Surroundings.journaled effect)) := by
  intro c d h
  obtain ⟨hsame, entries, hleft, hright⟩ :=
    heffect c.around.journal d.around.journal _ _
      ⟨[], (List.append_nil _).symm, (List.append_nil _).symm⟩
  refine ⟨hsame, ?_⟩
  -- The journals may differ, but they have grown by the same entries.
  have hnoted := hR.noted c d h entries
  unfold Connection.noted at hnoted
  rw [← hleft, ← hright] at hnoted
  exact hnoted

theorem aggregate_agrees (name : String) (pipeline : Value) :
    Agrees R (aggregate name pipeline) (aggregate name pipeline) := by
  refine hR.agrees_of_use name rfl fun c d h hc hd => ?_
  have hdocs : (c.backend.collection name).documents = (d.backend.collection name).documents :=
    (congrArg Collection.documents (hR.collection c d h name) :)
  unfold AgreesAt
  rw [apply_aggregate hc, apply_aggregate hd, hdocs]
  exact hR.journaled_agrees (fun start start' => Pipeline.run_agrees start start' _ _) _ _
    (hR.touched c d h name)

theorem log_agrees (level : Level) (component message : String) (context : Document) :
    Agrees R (outside (Surroundings.log level component message context))
      (outside (Surroundings.log level component message context)) :=
  fun c d h => ⟨rfl, hR.noted c d h [⟨level, component, message, context⟩]⟩

end Readable

namespace Legible

variable (hR : Legible R)

include hR

/-- Changing the same documents in the same way leaves related connections. -/
theorem replaced_agrees {c d : Connection} (h : R c d) (name : String) {after after' : Collection}
    (hrevision : Collection.Revision (c.backend.collection name).stored after.stored)
    (hleft : after = { c.backend.collection name with stored := after.stored })
    (hright : after' = { d.backend.collection name with stored := after'.stored })
    (hsame : after.discardSnapshot = after'.discardSnapshot) :
    R (c.replaced name after) (d.replaced name after') := by
  have hstored : after.stored = after'.stored := (congrArg Collection.stored hsame :)
  rw [hleft, hright, ← hstored]
  exact hR.rewritten c d h name after.stored hrevision

theorem deleteOne_agrees (name : String) (filter : Value) :
    Agrees R (deleteOne name filter) (deleteOne name filter) := by
  refine hR.readable.agrees_of_use name rfl fun c d h hc hd => ?_
  unfold AgreesAt
  rw [apply_deleteOne hc, apply_deleteOne hd]
  cases Filter.read filter with
  | error fault => exact ⟨rfl, hR.readable.touched c d h name⟩
  | ok filter =>
      have hdelete := congrArg (Collection.delete · filter) (hR.collection c d h name)
      simp only [Collection.delete_discardSnapshot, Prod.mk.injEq] at hdelete
      obtain ⟨hafter, hcount⟩ := hdelete
      exact ⟨congrArg Except.ok hcount, hR.replaced_agrees h name (Collection.revision_delete _ _)
        (Collection.delete_fst _ _) (Collection.delete_fst _ _) hafter⟩

theorem updateOne_agrees (name : String) (filter update : Value) :
    Agrees R (updateOne name filter update) (updateOne name filter update) := by
  refine hR.readable.agrees_of_use name rfl fun c d h hc hd => ?_
  have hrequested := congrArg (Collection.requested · filter update) (hR.collection c d h name)
  simp only [Collection.requested_discardSnapshot] at hrequested
  unfold AgreesAt
  rw [apply_updateOne hc, apply_updateOne hd]
  rcases same_or_both_ok hrequested with ⟨fault, hleft, hright⟩ |
    ⟨⟨after, count⟩, ⟨after', count'⟩, hleft, hright, hsame⟩
  · rw [hleft, hright]
    exact ⟨rfl, hR.readable.touched c d h name⟩
  · obtain ⟨hafter, hcount⟩ := Prod.mk.inj hsame
    rw [hleft, hright]
    exact ⟨congrArg Except.ok hcount, hR.replaced_agrees h name
      (Collection.revision_requested hleft) (Collection.eq_of_requested hleft)
      (Collection.eq_of_requested hright) hafter⟩

end Legible

/-! ## What is taken from outside -/

theorem outside_bind {α β : Type} (effect : Effect Surroundings α)
    (next : α → Effect Surroundings β) :
    outside (effect >>= next) = outside effect >>= fun value => outside (next value) := by
  have happly (c : Connection) : (outside (effect >>= next)).apply c =
      (outside effect >>= fun value => outside (next value)).apply c := by
    rw [apply_bind, outside, outside, apply_onPart, apply_onPart, apply_bind]
    rcases effect.apply c.around with ⟨_ | _, _⟩ <;> rfl
  exact funext happly

/-- What is put together from what agrees outside agrees. -/
theorem agrees_outside_bind {α β : Type} {R : Connection → Connection → Prop}
    {effect : Effect Surroundings α} {next : α → Effect Surroundings β}
    (heffect : Agrees R (outside effect) (outside effect))
    (hnext : ∀ value, Agrees R (outside (next value)) (outside (next value))) :
    Agrees R (outside (effect >>= next)) (outside (effect >>= next)) := by
  rw [outside_bind]
  exact heffect.bind hnext

namespace Tolerant

variable (hR : Tolerant R)

include hR

theorem newId_agrees : Agrees R (outside Surroundings.newId) (outside Surroundings.newId) := by
  intro c d h
  unfold AgreesAt
  rw [apply_newId, apply_newId, hR.lastId c d h]
  exact ⟨rfl, hR.numbered c d h _⟩

theorem readClock_agrees :
    Agrees R (outside Surroundings.readClock) (outside Surroundings.readClock) := by
  intro c d h
  obtain ⟨hnow, htick⟩ := hR.clock c d h
  have hticked := hR.ticked c d h (c.around.now + c.around.tick)
  refine ⟨congrArg (fun now => Except.ok (Clock.text now)) hnow, ?_⟩
  have hright : d.ticked (c.around.now + c.around.tick) =
      d.ticked (d.around.now + d.around.tick) := by
    rw [hnow, htick]
  rw [hright] at hticked
  exact hticked

theorem listCollections_agrees : Agrees R listCollections listCollections := by
  intro c d h
  unfold AgreesAt listCollections
  rw [apply_bind, apply_bind, apply_demand, apply_demand, hR.connected c d h]
  cases d.backend.connected with
  | false => exact ⟨rfl, h⟩
  | true => exact ⟨congrArg Except.ok (hR.registered c d h), h⟩

theorem identified {c d : Connection} (h : R c d) (doc : Document) :
    (c.identified doc).1 = (d.identified doc).1 ∧ R (c.identified doc).2 (d.identified doc).2 := by
  unfold Connection.identified
  split
  next => exact ⟨rfl, h⟩
  next =>
    rw [hR.lastId c d h]
    exact ⟨rfl, hR.numbered c d h _⟩

theorem insertOne_agrees (name : String) (doc : Value) :
    Agrees R (insertOne name doc) (insertOne name doc) := by
  refine hR.readable.agrees_of_use name rfl fun c d h hc hd => ?_
  cases doc with
  | object doc =>
      have hinsert := fun id => congrArg (Collection.insert · id doc) (hR.collection c d h name)
      simp only [Collection.insert_discardSnapshot] at hinsert
      unfold AgreesAt
      rw [apply_insertOne_object hc, apply_insertOne_object hd]
      -- The identifier is taken before the document is stored, so the two connections go on
      -- from the states after it has been taken.
      obtain ⟨hid, hidentified⟩ := hR.identified h doc
      have htruthy := c.isTruthy_identified doc
      rw [← c.identified_backend doc, ← d.identified_backend doc, ← hid] at *
      generalize c.identified doc = left at *
      generalize d.identified doc = right at *
      obtain ⟨id, c⟩ := left
      obtain ⟨id', d⟩ := right
      specialize hinsert id
      dsimp only at *
      rcases same_or_both_ok hinsert with ⟨fault, hleft, hright⟩ |
        ⟨after, after', hleft, hright, hsame⟩
      · rw [hleft, hright]
        exact ⟨rfl, hR.readable.touched _ _ hidentified name⟩
      · rw [hleft, hright]
        exact ⟨rfl, hR.toLegible.replaced_agrees hidentified name (.inserted htruthy hleft)
          (Collection.eq_of_insert hleft) (Collection.eq_of_insert hright) hsame⟩
  | _ =>
      unfold AgreesAt insertOne
      rw [apply_use_bind name _ hc, apply_use_bind name _ hd]
      exact ⟨rfl, hR.readable.touched c d h name⟩

end Tolerant

end Connection

/-! ## Related documents -/

namespace Relations

variable {R : Connection → Connection → Prop} (hR : Connection.Readable R)

include hR

theorem findById_agrees (resource : String) (id : Value) :
    Agrees R (findById resource id) (findById resource id) :=
  (hR.findOne_agrees resource _).bind fun _ => Agrees.pure _

theorem findWhere_agrees (resource field : String) (value : Value) :
    Agrees R (findWhere resource field value) (findWhere resource field value) :=
  (Agrees.ofExcept _).bind fun _ => (hR.find_agrees resource _).bind fun _ => Agrees.pure _

theorem targets_agrees (resource key : String) (rows : List Document) :
    Agrees R (targets resource key rows) (targets resource key rows) := by
  induction rows with
  | nil => exact Agrees.pure []
  | cons row rest ih =>
      have hgoOn : ∀ found : Option Document, Agrees R
          (do return found.toList ++ (← targets resource key rest))
          (do return found.toList ++ (← targets resource key rest)) :=
        fun found => ih.bind fun _ => Agrees.pure _
      rw [targets]
      split
      next => exact (findById_agrees hR resource _).bind hgoOn
      next => exact (Agrees.pure none).bind hgoOn

variable (registry : Registry)

theorem load?_agrees (resource : String) (doc : Document) (name : String) :
    Agrees R (load? registry resource doc name) (load? registry resource doc name) := by
  unfold load?
  dsimp only
  split
  next =>
    split
    next => exact (findById_agrees hR _ _).bind fun _ => Agrees.pure _
    next => exact (Agrees.pure none).bind fun _ => Agrees.pure _
  next => exact (findWhere_agrees hR _ _ _).bind fun _ => Agrees.pure _
  next =>
    exact (findWhere_agrees hR _ _ _).bind fun rows => (targets_agrees hR _ _ rows).bind fun _ =>
      Agrees.pure _
  next => exact Agrees.pure none

theorem noteSkipped_agrees (path resource : String) :
    Agrees R (noteSkipped path resource) (noteSkipped path resource) :=
  hR.log_agrees _ _ _ _

theorem embed_agrees (select : Option (List Value)) (segments : List String) (resource : String)
    (doc : Document) :
    Agrees R (embed registry select segments resource doc)
      (embed registry select segments resource doc) := by
  induction segments generalizing resource doc with
  | nil => exact Agrees.pure doc
  | cons name rest ih =>
      cases rest with
      | nil =>
          rw [embed]
          refine (load?_agrees hR registry resource doc name).bind fun found => ?_
          cases found with
          | none => exact (noteSkipped_agrees hR _ _).bind fun _ => Agrees.pure doc
          | some related => exact (Agrees.ofExcept _).bind fun _ => Agrees.pure _
      | cons next more =>
          rw [embed]
          refine (load?_agrees hR registry resource doc name).bind fun found => ?_
          cases found with
          | none => exact (noteSkipped_agrees hR _ _).bind fun _ => Agrees.pure doc
          | some related =>
              have hdescend : ∀ item : Value, Agrees R
                  (do
                    let inner ← Effect.ofExcept (Document.ofValue item)
                    return Value.object (← embed registry select (next :: more) related.1 inner))
                  (do
                    let inner ← Effect.ofExcept (Document.ofValue item)
                    return Value.object (← embed registry select (next :: more) related.1 inner)) :=
                fun _ => (Agrees.ofExcept _).bind fun inner => (ih related.1 inner).bind fun _ =>
                  Agrees.pure _
              dsimp only
              split
              next => exact Agrees.pure _
              next => exact (Agrees.mapM hdescend _).bind fun _ => Agrees.pure _
              next => exact (hdescend _).bind fun _ => Agrees.pure _

theorem populate_agrees (resource : String) (doc : Document) (includes : List Include) :
    Agrees R (populate registry resource doc includes)
      (populate registry resource doc includes) := by
  unfold populate
  exact Agrees.foldlM
    (fun doc (spec : Include) => embed_agrees hR registry spec.select spec.segments resource doc)
    doc includes

theorem resolve_agrees (resource : String) (doc : Document) (name : String) :
    Agrees R (resolve registry resource doc name) (resolve registry resource doc name) := by
  refine (load?_agrees hR registry resource doc name).bind fun found => ?_
  cases found with
  | none => exact Agrees.throw _
  | some related => exact Agrees.pure _

end Relations

/-! ## Calls of a backend -/

namespace Script.BackendCall

open Connection

/-- Whether a call asks for documents. -/
def isQuery : BackendCall → Bool
  | .find .. => true
  | .findOne .. => true
  | .count .. => true
  | .aggregate .. => true
  | _ => false

/-- Whether a call stores, changes or removes a document, or asks for documents. -/
def isWork : BackendCall → Bool
  | .insert .. => true
  | .update .. => true
  | .delete .. => true
  | call => call.isQuery

variable {R : Connection → Connection → Prop}

theorem query_agrees (hR : Readable R) {call : BackendCall} (hcall : call.isQuery = true) :
    Agrees R call.run call.run := by
  cases call with
  | find name filter order skip limit =>
      exact (Agrees.ofExcept _).bind fun _ => (Agrees.ofExcept _).bind fun _ =>
        (hR.find_agrees name _).bind fun _ => Agrees.pure _
  | findOne name filter => exact (hR.findOne_agrees name filter).bind fun _ => Agrees.pure _
  | count name filter => exact (hR.countDocuments_agrees name filter).bind fun _ => Agrees.pure _
  | aggregate name pipeline =>
      exact (hR.aggregate_agrees name pipeline).bind fun _ => Agrees.pure _
  | _ => cases hcall

theorem work_agrees (hR : Tolerant R) {call : BackendCall} (hcall : call.isWork = true) :
    Agrees R call.run call.run := by
  cases call with
  | insert name doc => exact (hR.insertOne_agrees name doc).bind fun _ => Agrees.pure _
  | update name filter changes =>
      exact (hR.toLegible.updateOne_agrees name filter changes).bind fun _ => Agrees.pure _
  | delete name filter =>
      exact (hR.toLegible.deleteOne_agrees name filter).bind fun _ => Agrees.pure _
  | _ => exact query_agrees hR.readable hcall

end Script.BackendCall

end Docbase
