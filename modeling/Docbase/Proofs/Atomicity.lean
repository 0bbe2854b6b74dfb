import Docbase.Proofs.Reachable

/-! # Transactions of a store are atomic

Inside a transaction, work on records finds what it would find outside; so it comes to the same, and
what it has written by the end is either kept, as if there had been no transaction, or undone.
-/

namespace Docbase

open Effect Script

namespace Backend

theorem discardSnapshot_takeSnapshot (b : Backend) :
    b.takeSnapshot.discardSnapshot = b.discardSnapshot := by
  have hcollections : (b.collections.each Collection.takeSnapshot).each Collection.discardSnapshot =
      b.collections.each Collection.discardSnapshot :=
    Keyed.each_each _ _ _
  exact congrArg (fun collections => { b with collections, snapshotNames := none }) hcollections

theorem discardSnapshot_discardSnapshot (b : Backend) :
    b.discardSnapshot.discardSnapshot = b.discardSnapshot := by
  have hcollections : (b.collections.each Collection.discardSnapshot).each
      Collection.discardSnapshot = b.collections.each Collection.discardSnapshot :=
    Keyed.each_each _ _ _
  exact congrArg (fun collections => { b with collections, snapshotNames := none }) hcollections

theorem discardSnapshot_replace (b : Backend) (name : String) (c : Collection) :
    (b.replace name c).discardSnapshot = b.discardSnapshot.replace name c.discardSnapshot :=
  congrArg (fun collections => { b with collections, snapshotNames := none })
    (Keyed.each_put Collection.discardSnapshot b.collections name c)

/-- Backends that differ in their snapshots at most hold the same documents. -/
theorem collection_of_discardSnapshot {b b' : Backend} (h : b.discardSnapshot = b'.discardSnapshot)
    (name : String) :
    (b.collection name).discardSnapshot = (b'.collection name).discardSnapshot := by
  rw [← discardSnapshot_collection, h, discardSnapshot_collection]

/-- No snapshot is left, neither of the backend nor of any collection. -/
def Unguarded (b : Backend) : Prop :=
  b.snapshotNames = none ∧ ∀ entry ∈ b.collections, entry.2.snapshot = none

theorem discardSnapshot_unguarded (b : Backend) : b.discardSnapshot.Unguarded := by
  refine ⟨rfl, fun entry hentry => ?_⟩
  obtain ⟨old, -, rfl⟩ := List.mem_map.mp hentry
  rfl

end Backend

namespace Store

/-- Two connections, of which the first is in a transaction that began on another, and the second
has had the same work done on it without one. -/
structure Alongside (before inside outside : Connection) : Prop where
  since : Backend.Since before.backend inside.backend
  listed : inside.backend.Listed
  registered : inside.backend.registered = before.backend.registered
  isActive : inside.isActive = true
  sessions : inside.around.sessions = before.around.sessions ++ [⟨true, false⟩]
  backend : inside.backend.discardSnapshot = outside.backend.discardSnapshot
  lastId : inside.around.lastId = outside.around.lastId
  clock : inside.around.now = outside.around.now ∧ inside.around.tick = outside.around.tick

theorem alongside_begun {c : Connection} (hlisted : c.backend.Listed) :
    Alongside c (Transaction.begun c) c where
  since := Backend.takeSnapshot_since c.backend
  listed := hlisted.each _ _
  registered := rfl
  isActive := rfl
  sessions := rfl
  backend := Backend.discardSnapshot_takeSnapshot c.backend
  lastId := rfl
  clock := ⟨rfl, rfl⟩

theorem alongside_tolerant (before : Connection) : Connection.Tolerant (Alongside before) where
  connected := fun _ _ h => (congrArg Backend.connected h.backend :)
  collection := fun _ _ h => Backend.collection_of_discardSnapshot h.backend
  rewritten := by
    intro c d h name stored _
    refine ⟨h.since.rewritten name stored, h.listed.replace name _, h.registered, h.isActive,
      h.sessions, ?_, h.lastId, h.clock⟩
    have hname : (c.backend.collection name).name = (d.backend.collection name).name :=
      (congrArg Collection.name (Backend.collection_of_discardSnapshot h.backend name) :)
    change (c.backend.replace name _).discardSnapshot = (d.backend.replace name _).discardSnapshot
    rw [Backend.discardSnapshot_replace, Backend.discardSnapshot_replace, h.backend]
    simp only [Collection.discardSnapshot, hname]
  noted := fun _ _ h _ =>
    ⟨h.since, h.listed, h.registered, h.isActive, h.sessions, h.backend, h.lastId, h.clock⟩
  registered := fun _ _ h => (congrArg Backend.registered h.backend :)
  lastId := fun _ _ h => h.lastId
  clock := fun _ _ h => h.clock
  numbered := fun _ _ h _ =>
    ⟨h.since, h.listed, h.registered, h.isActive, h.sessions, h.backend, rfl, h.clock⟩
  ticked := fun _ _ h _ =>
    ⟨h.since, h.listed, h.registered, h.isActive, h.sessions, h.backend, h.lastId, rfl, h.clock.2⟩

/-! ## What is compared -/

/-- The documents of the collection of a name, in order and with their identifiers. -/
def State.stored (s : State) (name : String) : List Stored :=
  ((s.connection s.generation).backend.collection name).stored

theorem stored_present (generation : Nat) (c : Connection) (name : String) :
    (State.present generation c).stored name = (c.backend.collection name).stored := by
  change (((State.present generation c).connection generation).backend.collection name).stored = _
  rw [connection_present]

/-- Two states list the same names and hold the same documents in the collections of every name. -/
structure SameRecords (s t : State) : Prop where
  listed : (listCollections.apply s).1 = (listCollections.apply t).1
  stored : ∀ name, s.stored name = t.stored name

theorem apply_listCollections_present (generation : Nat) (c : Connection) :
    (listCollections.apply (.present generation c)).1 =
      if c.backend.connected then .ok c.backend.registered else .error .notConnected := by
  unfold listCollections
  cases hc : c.backend.connected with
  | false => rw [apply_onBackend_disconnected generation hc]; rfl
  | true =>
      rw [apply_onBackend_present generation hc, Connection.listCollections, apply_bind,
        Connection.apply_demand, hc]
      rfl

theorem sameRecords_of_discardSnapshot {c d : Connection} (generation : Nat)
    (h : c.backend.discardSnapshot = d.backend.discardSnapshot) :
    SameRecords (.present generation c) (.present generation d) where
  listed := by
    have hconnected : c.backend.connected = d.backend.connected :=
      (congrArg Backend.connected h :)
    have hregistered : c.backend.registered = d.backend.registered :=
      (congrArg Backend.registered h :)
    rw [apply_listCollections_present, apply_listCollections_present, hconnected, hregistered]
  stored := by
    intro name
    rw [stored_present, stored_present]
    exact (congrArg Collection.stored (Backend.collection_of_discardSnapshot h name) :)

/-- Nothing of a transaction is left: its session is over, none is in flight, and there is no
snapshot. -/
structure IsOver (s : State) (session : Nat) : Prop where
  isActive : s.isActive = false
  session : s.around.sessions[session]? = some ⟨false, true⟩
  backend : ∀ b, s.backend = some b → b.Unguarded

/-- What it means that a transaction which began in a state is atomic. Given are the outcomes, each
with the state afterwards, of its work as it was done inside, of the same work done outside from
the state before, and of the transaction. -/
structure Atomic (before : State) (session : Nat)
    (inside outside result : Except Fault Value × State) : Prop where
  /-- The work comes to the same inside as outside. -/
  same : inside.1 = outside.1
  /-- What the work comes to is what comes out. -/
  outcome : result.1 = inside.1
  /-- After a fault everything is as it was before. -/
  undone : ∀ fault, inside.1 = .error fault → SameRecords result.2 before
  /-- After a value everything is as the work has left it outside. -/
  kept : ∀ value, inside.1 = .ok value → SameRecords result.2 outside.2
  /-- In both cases nothing of the transaction is left. -/
  finished : IsOver result.2 session

theorem isOver_closed {before c : Connection} (generation : Nat)
    (hsessions : c.around.sessions = before.around.sessions ++ [⟨true, false⟩])
    (hbackend : c.backend.Unguarded) :
    IsOver (.present generation (Transaction.closed c before.around.sessions.length))
      before.around.sessions.length := by
  refine ⟨rfl, ?_, ?_⟩
  · change (c.around.sessions.set _ _)[_]? = _
    rw [hsessions, List.getElem?_set_self (by simp)]
  · rintro b ⟨⟩
    exact hbackend

theorem session_of_alongside {before inside outside : Connection}
    (h : Alongside before inside outside) :
    (inside.session before.around.sessions.length).hasEnded = false := by
  unfold Connection.session
  rw [h.sessions]
  simp

/-- Going back gives the connection that there was, without a snapshot. -/
theorem restoreSnapshot_of_alongside {before inside outside : Connection}
    (hlisted : before.backend.Listed) (h : Alongside before inside outside) :
    inside.backend.restoreSnapshot = before.backend.discardSnapshot := by
  have hregistered : inside.backend.restoreSnapshot.registered = before.backend.registered := by
    rw [h.since.restoreSnapshot_registered h.listed, h.registered]
    exact List.filter_eq_self.mpr fun name hname => List.contains_iff_mem.mpr (hlisted name hname)
  rw [h.since.restoreSnapshot_eq, hregistered]
  rfl

/-- The end of a transaction in whose work nothing has been done to its session. -/
theorem atomic_of_alongside {before c d : Connection} (hlisted : before.backend.Listed)
    (h : Alongside before c d) (generation : Nat)
    (outcome : Except Fault Value) :
    Atomic (.present generation before) before.around.sessions.length
      (outcome, .present generation c) (outcome, .present generation d)
      ((conclude (generation, before.around.sessions.length) outcome).apply
        (.present generation c)) := by
  rw [conclude, apply_onGeneration_present]
  have hopen := session_of_alongside h
  cases outcome with
  | ok value =>
      rw [Transaction.apply_conclude_ok hopen]
      refine ⟨rfl, rfl, ?_, ?_, ?_⟩
      · rintro _ ⟨⟩
      · rintro _ ⟨⟩
        refine sameRecords_of_discardSnapshot generation ?_
        exact (Backend.discardSnapshot_discardSnapshot c.backend).trans h.backend
      · exact isOver_closed generation h.sessions (Backend.discardSnapshot_unguarded c.backend)
  | error fault =>
      rw [Transaction.apply_conclude_error hopen (by rw [h.since.covered]; rfl)]
      have hrestored := restoreSnapshot_of_alongside hlisted h
      refine ⟨rfl, rfl, ?_, ?_, ?_⟩
      · rintro _ ⟨⟩
        refine sameRecords_of_discardSnapshot generation ?_
        change c.backend.restoreSnapshot.discardSnapshot = _
        rw [hrestored]
        exact Backend.discardSnapshot_discardSnapshot before.backend
      · rintro _ ⟨⟩
      · refine isOver_closed generation h.sessions ?_
        change c.backend.restoreSnapshot.Unguarded
        rw [hrestored]
        exact Backend.discardSnapshot_unguarded before.backend

/-- Transactions of a store are atomic: on any store that programs have led to and that is
connected, whatever work on records is done, whichever of its faults it catches and whichever
transactions it attempts in turn. -/
theorem transact_atomic (store : Store) (s : State)
    (hreachable : (storeHost store).Reachable State.IsNew s) (hs : s.isConnected = true)
    (body : Nat → Program StoreCall)
    (hbody : ∀ session, (body session).Makes (fun call => call.isWork = true) fun _ _ => False) :
    (begin.apply s).1 = .ok (s.generation, s.around.sessions.length) ∧
    Atomic s s.around.sessions.length
      (((body s.around.sessions.length).run (storeHost store)).apply (begin.apply s).2)
      (((body s.around.sessions.length).withoutTransactions.run (storeHost store)).apply s)
      ((transact fun session => (body session).run (storeHost store)).apply s) := by
  obtain ⟨hsound, hidle⟩ := sound_of_reachable hreachable
  cases hsound with
  | absent generation around => cases hs
  | present generation c hlisted =>
      rw [isConnected_present] at hs
      have hbegin : begin.apply (.present generation c) =
          (.ok (generation, c.around.sessions.length),
            .present generation (Transaction.begun c)) :=
        apply_begin hs hidle
      refine ⟨by rw [hbegin]; rfl, ?_⟩
      -- The run of the work inside and its run outside go through the same calls, side by side.
      have hagrees : Agrees (Lifted generation False (Alongside c))
          ((body c.around.sessions.length).run (storeHost store))
          ((body c.around.sessions.length).withoutTransactions.run (storeHost store)) := by
        refine Program.run_agrees ?_ ?_ ?_ (body _) (hbody _)
        · exact fun call hcall => StoreCall.work_agrees (alongside_tolerant c) store hcall
        · exact fun _ _ hnever => hnever.elim
        · rintro _ _ (⟨_, hnever⟩ | ⟨inside, outside, h⟩)
          · exact hnever.elim
          · exact apply_begin_of_active (h.since.connected.trans hs) h.isActive
      obtain ⟨hsame, hafter⟩ := hagrees _ _ (.present _ _ (alongside_begun hlisted))
      rw [transact, Effect.bracket, apply_bind, hbegin]
      dsimp only
      rw [apply_bind, apply_outcome]
      change Atomic _ c.around.sessions.length
        (((body c.around.sessions.length).run (storeHost store)).apply _)
        (((body c.around.sessions.length).withoutTransactions.run (storeHost store)).apply _)
        ((conclude (generation, c.around.sessions.length)
          (((body c.around.sessions.length).run (storeHost store)).apply _).1).apply
            (((body c.around.sessions.length).run (storeHost store)).apply _).2)
      generalize ((body c.around.sessions.length).run (storeHost store)).apply
        (.present generation (Transaction.begun c)) = inside at *
      generalize ((body c.around.sessions.length).withoutTransactions.run (storeHost store)).apply
        (.present generation c) = outside at *
      obtain ⟨outcome, insideAfter⟩ := inside
      obtain ⟨_, outsideAfter⟩ := outside
      dsimp only at hsame hafter ⊢
      subst hsame
      cases hafter with
      | absent _ hnever => exact hnever.elim
      | present c' d' h => exact atomic_of_alongside hlisted h generation outcome

/-- A store of deals. -/
def deals : Store where
  registry := .ofSchema
    { resources :=
        [{ name := "Deal", fields := [{ name := "title", kind := .string, isRequired := true }] }] }

/-- The state of the store of deals once it is connected. -/
def dealsConnected : State :=
  ((Program.run (storeHost deals) (.call .connect fun _ => .finish (.ok .null))).apply {}).2

/-- The work that creates a deal, catches the fault of creating one without a title and the refusal
of another transaction, and fails. -/
def failingWork : Program StoreCall :=
  .call (.create "Deal" (.object [("title", .text "A")])) fun _ =>
    .call (.create "Deal" (.object [])) fun _ =>
      .transaction (fun _ => .finish (.ok .null)) fun _ =>
        .finish (.error (.foreign "Boom" "boom"))

theorem transact_atomic_failingWork :
    dealsConnected.isConnected = true ∧
    Atomic dealsConnected 0
      ((failingWork.run (storeHost deals)).apply (begin.apply dealsConnected).2)
      ((failingWork.withoutTransactions.run (storeHost deals)).apply dealsConnected)
      ((transact fun _ => failingWork.run (storeHost deals)).apply dealsConnected) :=
  ⟨rfl, (transact_atomic deals dealsConnected ⟨_, _, ⟨_, rfl⟩, rfl⟩ rfl (fun _ => failingWork)
    fun _ => ⟨rfl, fun _ => ⟨rfl, fun _ _ => trivial⟩⟩).2⟩

end Store

end Docbase
