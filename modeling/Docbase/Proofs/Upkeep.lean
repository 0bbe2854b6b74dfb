import Docbase.Proofs.Effects

/-! # What all documents of a store have in common

A call of a store leaves all records as they are, adds one that has been built, changes one, or
takes one away. So a property of documents holds of all of them if every new one has it and no
change takes it away, and it holds then of the documents of a snapshot too, which a transaction may
go back to.
-/

namespace Docbase

open Effect Script

namespace Script.Host

variable {σ τ ω : Type}

/-- The host that takes no other calls than some. -/
def taking (host : Host σ τ ω) (may : ω → Prop) : Host σ τ { op : ω // may op } where
  call op := host.call op.1
  callSession := host.callSession
  begin := host.begin
  sessionOf := host.sessionOf
  conclude := host.conclude

theorem Passes.of_taking {host : Host σ τ ω} {may : ω → Prop} {start : σ → Prop} {s : σ}
    (h : (host.taking may).Passes start s) : host.Passes start s := by
  induction h with
  | start h => exact .start h
  | call _ op ih => exact ih.call op.1
  | session _ number request ih => exact ih.session number request
  | begin _ ih => exact ih.begin
  | conclude _ token outcome ih => exact ih.conclude token outcome

theorem Passes.taking_all {host : Host σ τ ω} {may : ω → Prop} {start : σ → Prop} {s : σ}
    (h : host.Passes start s) (hmay : ∀ op, may op) : (host.taking may).Passes start s := by
  induction h with
  | start h => exact .start h
  | call _ op ih => exact ih.call ⟨op, hmay op⟩
  | session _ number request ih => exact ih.session number request
  | begin _ ih => exact ih.begin
  | conclude _ token outcome ih => exact ih.conclude token outcome

end Script.Host

namespace Backend

variable (P : String → Document → Prop)

/-- Documents have a property, which may depend on the name of the collection. -/
def Live (b : Backend) : Prop :=
  ∀ name, ∀ doc ∈ (b.collection name).documents, P name doc

/-- The documents that would be gone back to have a property. -/
def Saved (b : Backend) : Prop :=
  ∀ name, ∀ saved ∈ (b.collection name).snapshot, ∀ entry ∈ saved, P name entry.2

/-- All documents, those of a snapshot included, have a property. -/
structure Upholds (b : Backend) : Prop where
  live : b.Live P
  saved : b.Saved P

variable {P} {b b' : Backend}

/-- When the collections of some names are kept and changed, a collection is changed, or there is
none. -/
theorem collection_of_only_each {f : Collection → Collection} {test : String → Bool}
    (h : b'.collections = (b.collections.only test).each f) (name : String) :
    b'.collection name = { name } ∨ b'.collection name = f (b.collection name) := by
  rw [collection, collection, h, Keyed.get?_each]
  by_cases htest : test name = true
  · rw [Keyed.get?_only _ htest]
    cases Keyed.get? b.collections name with
    | none => exact .inl rfl
    | some c => exact .inr rfl
  · have hnone : Keyed.get? (b.collections.only test) name = none := by
      rw [Keyed.get?_eq_none_iff, Keyed.mem_keys_only]
      exact fun h => htest h.2
    rw [hnone]
    exact .inl rfl

theorem Upholds.of_only_each {f : Collection → Collection} {test : String → Bool}
    (h : b'.collections = (b.collections.only test).each f)
    (hlive : ∀ name, ∀ doc ∈ (f (b.collection name)).documents, P name doc)
    (hsaved : ∀ name, ∀ saved ∈ (f (b.collection name)).snapshot, ∀ entry ∈ saved,
      P name entry.2) : b'.Upholds P := by
  constructor
  · intro name doc hdoc
    rcases collection_of_only_each h name with hnone | hsome
    · rw [hnone] at hdoc
      cases hdoc
    · rw [hsome] at hdoc
      exact hlive name doc hdoc
  · intro name saved hsaved' entry hentry
    rcases collection_of_only_each h name with hnone | hsome
    · rw [hnone] at hsaved'
      cases hsaved'
    · rw [hsome] at hsaved'
      exact hsaved name saved hsaved' entry hentry

theorem each_eq_only_each (f : Collection → Collection) (collections : Keyed Collection) :
    collections.each f = (collections.only fun _ => true).each f := by
  rw [Keyed.only_eq_self fun _ _ => rfl]

/-- Of a snapshot that is taken, nothing has to be known of an earlier one. -/
theorem upholds_takeSnapshot (h : b.Live P) : b.takeSnapshot.Upholds P := by
  refine .of_only_each (each_eq_only_each Collection.takeSnapshot b.collections) h ?_
  rintro name _ ⟨⟩ entry hentry
  exact h name entry.2 (List.mem_map_of_mem hentry)

theorem collections_restoreSnapshot {names : List String} (h : b.snapshotNames = some names) :
    b.restoreSnapshot.collections =
      (b.collections.only names.contains).each Collection.restoreSnapshot := by
  rw [restoreSnapshot, h]
  rfl

theorem upholds_rewindable (P : String → Document → Prop) : Rewindable (Upholds P) where
  taken := fun _ h => upholds_takeSnapshot h.live
  restored := by
    intro b h
    cases hnames : b.snapshotNames with
    | none => rwa [Backend.restoreSnapshot, hnames]
    | some names =>
      refine .of_only_each (collections_restoreSnapshot hnames) ?_ ?_
      -- Documents come back out of a snapshot, or are left alone where there is none.
      · intro name doc hdoc
        unfold Collection.restoreSnapshot at hdoc
        split at hdoc
        next saved hsaved =>
          obtain ⟨entry, hentry, rfl⟩ := List.mem_map.mp hdoc
          exact h.saved name saved hsaved entry hentry
        next => exact h.live name doc hdoc
      · intro name saved hsaved entry hentry
        unfold Collection.restoreSnapshot at hsaved
        split at hsaved
        next => cases hsaved
        next => exact h.saved name saved hsaved entry hentry
  discarded := by
    intro b h
    refine .of_only_each (each_eq_only_each Collection.discardSnapshot b.collections) h.live ?_
    rintro name _ ⟨⟩

/-- What is written into a collection does not reach the documents that would be gone back to. -/
theorem saved_durable (P : String → Document → Prop) :
    Connection.Durable fun c => c.backend.Saved P where
  rewritten := by
    intro c h name stored _ other saved hsaved
    rw [Connection.rewritten, Connection.replaced, collection_replace] at hsaved
    split at hsaved
    next heq =>
      subst heq
      exact h other saved hsaved
    next => exact h other saved hsaved
  numbered := fun _ h _ => h
  ticked := fun _ h _ => h
  noted := fun _ h _ => h

end Backend

namespace Store

/-! ## What a call makes of the records -/

variable (store : Store) {s : State}

/-- What a call of a connected store makes of the records: with what it answers, and after. -/
inductive Turns (s : State) :
    StoreCall → Except Fault Reply → (String → List Document) → Prop
  | kept (call : StoreCall) (reply : Except Fault Reply) : Turns s call reply s.records
  | created {name : String} {data id : Value} {built : Document}
      (h : store.Stores s.around name data built) :
      Turns s (.create name data) (.ok (.record (Document.formatted (Keyed.put built idKey id))))
        (Function.update s.records name (s.records name ++ [Keyed.put built idKey id]))
  | amended {name : String} {id data : Value} {filter : Filter} {old changes : Document}
      (h : store.Amends s.around name data changes) (hread : Filter.read (byId id) = .ok filter)
      (hold : (s.records name).find? filter.holds = some old) :
      Turns s (.update name id data) (.ok (.value (.object (Ledger.amended changes old).formatted)))
        (Function.update s.records name
          (replaceFirst filter.holds (Ledger.amended changes) (s.records name)))
  | removed (name : String) (id : Value) (filter : Filter) (reply : Except Fault Reply) :
      Turns s (.delete name id) reply
        (Function.update s.records name ((s.records name).eraseP filter.holds))
  | dropped (reply : Except Fault Reply) : Turns s .disconnect reply fun _ => []

theorem turns_of_shows (h : s.Shows s.records) (call : StoreCall) :
    Turns store s call ((call.run store).apply s).1 ((call.run store).apply s).2.records := by
  have hkept {t : State} (ht : t.Shows s.records) (reply : Except Fault Reply) :
      Turns store s call reply t.records := by
    rw [ht.records_eq]
    exact .kept call reply
  cases call with
  | connect =>
      rw [StoreCall.run, StoreCall.silently, apply_bind,
        connect_of_isConnected store h.isConnected]
      exact .kept _ _
  | disconnect =>
      obtain ⟨generation, hc⟩ := h
      rw [StoreCall.run, StoreCall.silently, apply_bind, disconnect_present]
      exact .dropped _
  | isConnected => exact hkept h _
  | listCollections => exact hkept (shows_of_listCollections store h) _
  | resources => exact hkept h _
  | resource name => exact hkept h _
  | create name data =>
      rw [StoreCall.run, bind_pure_comp, apply_map]
      obtain ⟨fault, hfault, hafter⟩ | ⟨_, _, hok, hafter, built, id, hstores, rfl, rfl⟩ :=
        create_stores store h name data
      · exact hkept hafter _
      · rw [hok, hafter.records_eq]
        exact .created hstores
  | update name id data =>
      rw [StoreCall.run, bind_pure_comp, apply_map]
      obtain ⟨fault, hfault, hafter⟩ |
          ⟨_, _, hok, hafter, filter, old, changes, hread, hold, hamends, rfl, rfl⟩ :=
        update_amends store h name id data
      · exact hkept hafter _
      · rw [hok, hafter.records_eq]
        exact .amended hamends hread hold
  | delete name id =>
      rw [StoreCall.run, bind_pure_comp, apply_map]
      obtain ⟨fault, hfault, hafter⟩ | ⟨_, _, hok, hafter, filter, hread, rfl, rfl⟩ :=
        delete_ends store h name id
      · exact hkept hafter _
      · rw [hafter.records_eq]
        exact .removed name id filter _
  -- All other calls only ask.
  | _ => exact hkept (keeps_shows_query store rfl s h) _

variable {P : String → Document → Prop} {call : StoreCall} {reply : Except Fault Reply}
  {records' : String → List Document}

/-- What a call adds has a property, and what it changes does not lose it. -/
structure Sustains (P : String → Document → Prop) (s : State) (call : StoreCall)
    (reply : Except Fault Reply) : Prop where
  created : ∀ name data built id, call = .create name data →
    reply = .ok (.record (Document.formatted (Keyed.put built idKey id))) →
    store.Stores s.around name data built → P name (Keyed.put built idKey id)
  amended : ∀ name id data changes old, call = .update name id data →
    store.Amends s.around name data changes → P name old → P name (Ledger.amended changes old)

theorem Turns.live (h : Turns store s call reply records')
    (hlive : ∀ name, ∀ doc ∈ s.records name, P name doc) (hcall : Sustains store P s call reply) :
    ∀ name, ∀ doc ∈ records' name, P name doc := by
  -- Only the records of one name are others than before.
  have hupdate {name : String} {docs : List Document} (hdocs : ∀ doc ∈ docs, P name doc) :
      ∀ other, ∀ doc ∈ Function.update s.records name docs other, P other doc := by
    intro other doc hdoc
    by_cases hother : other = name
    · subst hother
      rw [Function.update_self] at hdoc
      exact hdocs doc hdoc
    · rw [Function.update_of_ne hother] at hdoc
      exact hlive other doc hdoc
  cases h with
  | kept => exact hlive
  | created hstores =>
      refine hupdate fun doc hdoc => ?_
      rcases List.mem_append.mp hdoc with hold | hnew
      · exact hlive _ doc hold
      · rw [List.mem_singleton.mp hnew]
        exact hcall.created _ _ _ _ rfl rfl hstores
  | amended hamends hread hold =>
      refine hupdate fun doc hdoc => ?_
      rw [replaceFirst_eq_modify] at hdoc
      rcases mem_modify hdoc with hsame | ⟨old, hmem, rfl⟩
      · exact hlive _ doc hsame
      · exact hcall.amended _ _ _ _ _ rfl hamends (hlive _ old hmem)
  | removed name id filter reply =>
      exact hupdate fun doc hdoc => hlive name doc (List.mem_of_mem_eraseP hdoc)
  | dropped =>
      intro _ _ hdoc
      cases hdoc

/-! ## States that have a property -/

theorem State.Has.imp {I J : Backend → Prop} (h : s.Has I) (himp : ∀ b, I b → J b) :
    s.Has J := by
  cases h with
  | absent generation around => exact .absent generation around
  | present generation c hc => exact .present generation c (himp _ hc)

theorem State.Has.live (h : s.Has (Backend.Live P)) :
    ∀ name, ∀ doc ∈ s.records name, P name doc := by
  cases h with
  | absent generation around =>
      intro _ _ hdoc
      cases hdoc
  | present generation c hc =>
      intro name doc hdoc
      rw [records_present] at hdoc
      exact hc name doc hdoc

theorem State.Has.and_live {I : Backend → Prop} (h : s.Has I)
    (hlive : ∀ name, ∀ doc ∈ s.records name, P name doc) : s.Has fun b => I b ∧ b.Live P := by
  cases h with
  | absent generation around => exact .absent generation around
  | present generation c hc =>
      refine .present generation c ⟨hc, fun name doc hdoc => hlive name doc ?_⟩
      rw [records_present]
      exact hdoc

theorem State.Has.upholds (h : s.Has (Backend.Saved P))
    (hlive : ∀ name, ∀ doc ∈ s.records name, P name doc) : s.Has (Backend.Upholds P) :=
  (h.and_live hlive).imp fun _ h => ⟨h.2, h.1⟩

theorem upholds_connected (database : String) (around : Surroundings) :
    (Connection.connect.apply { backend := { database }, around }).2.backend.Upholds P :=
  ⟨fun _ _ hdoc => absurd hdoc List.not_mem_nil, fun _ _ hsaved => by cases hsaved⟩

theorem upholds_opened (name : String) :
    Keeps (fun c => c.backend.Upholds P) (Connection.createCollection name) := by
  refine Connection.keeps_demand.bind fun _ => Connection.keeps_change fun c h => ?_
  have hsame (other : String) :
      (c.backend.create name).collection other = c.backend.collection other := by
    rw [Backend.create_eq]
    exact c.backend.collection_touch name other
  constructor
  · intro other doc hdoc
    rw [hsame] at hdoc
    exact h.live other doc hdoc
  · intro other saved hsaved
    rw [hsame] at hsaved
    exact h.saved other saved hsaved

theorem keeps_upholds_connect : Keeps (State.Has (Backend.Upholds P)) store.connect :=
  keeps_has_connect upholds_connected upholds_opened store

/-! ## Calls -/

/-- Without a backend, there are no records after a call either. -/
theorem live_of_call_absent (generation : Nat) (around : Surroundings) (call : StoreCall) :
    ∀ name, ∀ doc ∈ ((call.run store).apply (.absent generation around)).2.records name,
      P name doc := by
  have hnone : State.Has (Backend.Upholds P) (.absent generation around) := .absent _ _
  refine State.Has.live (State.Has.imp ?_ fun _ h => Backend.Upholds.live h)
  cases call with
  | connect => exact (keeps_upholds_connect store).bind (fun _ => Keeps.pure _) _ hnone
  | disconnect => exact .absent _ _
  | _ =>
      have hnever : Connection.Durable fun _ => False :=
        ⟨fun _ h => h.elim, fun _ h => h.elim, fun _ h => h.elim, fun _ h => h.elim⟩
      refine State.Has.imp ?_ fun _ h => False.elim h
      exact keeps_has_of_agrees hnever (fun _ _ hR => StoreCall.work_agrees hR store rfl) _
        (.absent _ _)

theorem live_of_call (hready : s.Has Backend.Ready)
    (hlive : ∀ name, ∀ doc ∈ s.records name, P name doc) (call : StoreCall)
    (hcall : Sustains store P s call ((call.run store).apply s).1) :
    ∀ name, ∀ doc ∈ ((call.run store).apply s).2.records name, P name doc := by
  cases hready with
  | absent generation around => exact live_of_call_absent store generation around call
  | present generation c hc =>
      exact (turns_of_shows store (State.Has.shows (.present generation c hc) hc.connected)
        call).live store hlive hcall

theorem upholds_of_call (hready : s.Has Backend.Ready) (h : s.Has (Backend.Upholds P))
    (call : StoreCall) (hcall : Sustains store P s call ((call.run store).apply s).1) :
    ((call.run store).apply s).2.Has (Backend.Upholds P) := by
  have hlive := live_of_call store hready (h.imp fun _ h => h.live).live call hcall
  cases call with
  | connect => exact (keeps_upholds_connect store).bind (fun _ => Keeps.pure _) s h
  | disconnect => exact (keeps_has_disconnect store).bind (fun _ => Keeps.pure _) s h
  | _ =>
      -- What would be gone back to is out of reach of what a call does to the connection.
      refine State.Has.upholds ?_ hlive
      exact keeps_has_of_agrees (Backend.saved_durable P)
        (fun _ _ hR => StoreCall.work_agrees hR store rfl) s (h.imp fun _ h => h.saved)

/-- A property that all new documents have and no change takes away is one of all documents of
every store that programs pass through. -/
theorem upholds_of_passes {may : StoreCall → Prop}
    (hcall : ∀ s call, may call → Sustains store P s call ((call.run store).apply s).1)
    (h : ((storeHost store).taking may).Passes State.IsNew s) : s.Has (Backend.Upholds P) := by
  suffices hboth : s.Has Backend.Ready ∧ s.Has (Backend.Upholds P) from hboth.2
  induction h with
  | start h =>
      obtain ⟨around, rfl⟩ := h
      exact ⟨.absent 0 around, .absent 0 around⟩
  | call hpasses op ih =>
      exact ⟨has_ready_of_passes (hpasses.call op).of_taking,
        upholds_of_call store ih.1 ih.2 op.1 (hcall _ op.1 op.2)⟩
  | session hpasses number request ih =>
      exact ⟨has_ready_of_passes (hpasses.session number request).of_taking,
        keeps_has_outside _ _ ih.2⟩
  | begin hpasses ih =>
      refine ⟨has_ready_of_passes hpasses.begin.of_taking, ?_⟩
      exact (keeps_has_onBackend (Connection.keeps_begin (Backend.upholds_rewindable P))).bind
        (fun _ => Keeps.get.bind fun _ => Keeps.pure _) _ ih.2
  | conclude hpasses token outcome ih =>
      refine ⟨has_ready_of_passes (hpasses.conclude token outcome).of_taking, ?_⟩
      exact keeps_has_onGeneration
        (Connection.keeps_conclude (Backend.upholds_rewindable P) _ outcome) _ _ ih.2

end Store

end Docbase
