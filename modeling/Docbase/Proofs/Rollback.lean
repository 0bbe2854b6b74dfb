import Docbase.Proofs.Program
import Docbase.Proofs.Tolerance

/-! # Going back to a snapshot

Three things are put back together: the documents of every collection that there was, the
collections that there were, and the names listed. The first two come back exactly as they were,
whatever has been done to the documents since. A name goes off the list only together with its
collection, so that a collection that had come into being unlisted, and is created on purpose
after the snapshot, stays on the list.
-/

namespace Docbase

open Effect

/-- With a snapshot to go back to, it does not matter what the documents are. -/
theorem Collection.restoreSnapshot_of_hasSnapshot {c : Collection} (h : c.hasSnapshot = true)
    (stored : List Stored) :
    Collection.restoreSnapshot { c with stored } = c.restoreSnapshot := by
  unfold Collection.hasSnapshot at h
  unfold Collection.restoreSnapshot
  cases hsnapshot : c.snapshot with
  | none =>
      rw [hsnapshot] at h
      cases h
  | some saved => rfl

namespace Backend

/-- Every name on the list is that of a collection that has come into being. -/
def Listed (b : Backend) : Prop :=
  ∀ name ∈ b.registered, name ∈ Keyed.keys b.collections

/-- The list with a name added, unless it is there. -/
def enlist (names : List String) (name : String) : List String :=
  if name ∈ names then names else names ++ [name]

theorem enlist_of_mem {names : List String} {name : String} (h : name ∈ names) :
    enlist names name = names :=
  if_pos h

theorem mem_enlist {names : List String} {name other : String} :
    other ∈ enlist names name ↔ other ∈ names ∨ other = name := by
  unfold enlist
  split
  next h => exact ⟨Or.inl, fun hother => hother.elim id fun heq => heq ▸ h⟩
  next => rw [List.mem_append, List.mem_singleton]

theorem filter_enlist (test : String → Bool) (names : List String) (name : String) :
    (enlist names name).filter test =
      if test name then enlist (names.filter test) name else names.filter test := by
  unfold enlist
  by_cases htest : test name = true <;> by_cases hmem : name ∈ names <;> simp [htest, hmem]

theorem filter_foldl_enlist (test : String → Bool) (names more : List String) :
    (more.foldl enlist names).filter test =
      (more.filter test).foldl enlist (names.filter test) := by
  induction more generalizing names with
  | nil => rfl
  | cons name rest ih =>
      rw [List.foldl_cons, ih, filter_enlist]
      by_cases htest : test name = true
      · rw [if_pos htest, List.filter_cons_of_pos htest, List.foldl_cons]
      · rw [if_neg htest, List.filter_cons_of_neg htest]

theorem mem_foldl_enlist {names more : List String} {name : String} :
    name ∈ more.foldl enlist names ↔ name ∈ names ∨ name ∈ more := by
  induction more generalizing names with
  | nil => simp
  | cons first rest ih =>
      rw [List.foldl_cons, ih, mem_enlist, List.mem_cons, or_assoc]

/-- A list stays the same just when all names that are added are on it. -/
theorem foldl_enlist_eq_self_iff {names more : List String} :
    more.foldl enlist names = names ↔ ∀ name ∈ more, name ∈ names := by
  constructor
  · intro heq name hname
    rw [← heq, mem_foldl_enlist]
    exact Or.inr hname
  · intro hall
    induction more with
    | nil => rfl
    | cons first rest ih =>
        rw [List.foldl_cons, enlist_of_mem (hall first List.mem_cons_self)]
        exact ih fun name hname => hall name (List.mem_cons_of_mem first hname)

theorem create_eq (b : Backend) (name : String) :
    b.create name = { b.touch name with registered := enlist b.registered name } := by
  unfold create enlist
  change (if name ∈ b.registered then _ else _) = _
  split <;> rfl

theorem create_registered (b : Backend) (name : String) :
    (b.create name).registered = enlist b.registered name := by
  rw [create_eq]

namespace Listed

variable {b : Backend}

theorem replace (h : b.Listed) (name : String) (c : Collection) : (b.replace name c).Listed :=
  fun other hother => Keyed.mem_keys_put.mpr (Or.inl (h other hother))

theorem create (h : b.Listed) (name : String) : (b.create name).Listed := by
  rw [create_eq]
  intro other hother
  rcases mem_enlist.mp hother with hold | hnew
  · exact h.replace name (b.collection name) other hold
  · exact Keyed.mem_keys_put.mpr (Or.inr hnew)

theorem each (h : b.Listed) (f : Collection → Collection) (names : Option (List String)) :
    { b with collections := b.collections.each f, snapshotNames := names }.Listed := by
  intro name hname
  change name ∈ Keyed.keys (b.collections.each f)
  rw [Keyed.keys_each]
  exact h name hname

theorem restoreSnapshot (h : b.Listed) : b.restoreSnapshot.Listed := by
  unfold Backend.restoreSnapshot
  split
  next => exact h
  next names _ =>
    intro name hname
    obtain ⟨hregistered, hkept⟩ := List.mem_filter.mp hname
    obtain ⟨c, hc⟩ := Keyed.exists_get?_of_mem (h name hregistered)
    change name ∈ Keyed.keys ((Keyed.only names.contains b.collections).each _)
    rw [Keyed.keys_each, Keyed.mem_keys_only]
    exact ⟨h name hregistered, by simpa [Keyed.has, hc] using hkept⟩

end Listed

/-- A property of backends that taking a snapshot, going back to it and dropping it keep. -/
structure Rewindable (I : Backend → Prop) : Prop where
  taken : ∀ b, I b → I b.takeSnapshot
  restored : ∀ b, I b → I b.restoreSnapshot
  discarded : ∀ b, I b → I b.discardSnapshot

theorem listed_rewindable : Rewindable Listed where
  taken := fun _ h => h.each _ _
  restored := fun _ h => h.restoreSnapshot
  discarded := fun _ h => h.each _ _

/-- What there is of a backend since a snapshot of it was taken. -/
structure Since (before now : Backend) : Prop where
  database : now.database = before.database
  connected : now.connected = before.connected
  covered : now.snapshotNames = some (Keyed.keys before.collections)
  /-- Of the collections covered, each goes back to what it was. -/
  restored : (Keyed.only (Keyed.keys before.collections).contains now.collections).each
    Collection.restoreSnapshot = before.collections.each Collection.discardSnapshot
  /-- Each of the collections covered has a snapshot of its own. -/
  guarded : ∀ name ∈ Keyed.keys before.collections, (now.collection name).hasSnapshot = true

theorem collection_each (b : Backend) (f : Collection → Collection)
    (hnew : ∀ name : String, f { name } = { name }) (name : String) :
    { b with collections := b.collections.each f }.collection name = f (b.collection name) := by
  unfold collection
  rw [Keyed.get?_each]
  cases Keyed.get? b.collections name with
  | none => exact (hnew name).symm
  | some c => rfl

theorem discardSnapshot_collection (b : Backend) (name : String) :
    b.discardSnapshot.collection name = (b.collection name).discardSnapshot :=
  collection_each b Collection.discardSnapshot (fun _ => rfl) name

theorem takeSnapshot_since (b : Backend) : Since b b.takeSnapshot where
  database := rfl
  connected := rfl
  covered := rfl
  restored := by
    change (Keyed.only (Keyed.keys b.collections).contains
      (b.collections.each Collection.takeSnapshot)).each _ = _
    rw [Keyed.only_eq_self, Keyed.each_each]
    · rfl
    · intro name hname
      rw [Keyed.keys_each] at hname
      exact List.contains_iff_mem.mpr hname
  guarded := by
    intro name hname
    obtain ⟨c, hc⟩ := Keyed.exists_get?_of_mem hname
    unfold collection
    change ((Keyed.get? (b.collections.each Collection.takeSnapshot) name).getD _).hasSnapshot = _
    rw [Keyed.get?_each, hc]
    rfl

namespace Since

variable {before now : Backend}

/-- What becomes of the documents of a collection does not matter to going back. -/
theorem rewritten (h : Since before now) (name : String) (stored : List Stored) :
    Since before (now.replace name { now.collection name with stored }) where
  database := h.database
  connected := h.connected
  covered := h.covered
  restored := by
    by_cases hcovered : name ∈ Keyed.keys before.collections
    · -- The snapshot of a covered collection, and not its documents, decides what it goes back to.
      have hrestore := Collection.restoreSnapshot_of_hasSnapshot (h.guarded name hcovered) stored
      have hkey : name ∈ Keyed.keys ((Keyed.only (Keyed.keys before.collections).contains
          now.collections).each Collection.restoreSnapshot) := by
        rw [h.restored, Keyed.keys_each]
        exact hcovered
      have htest := List.contains_iff_mem.mpr hcovered
      obtain ⟨saved, hsaved⟩ := Keyed.exists_get?_of_mem hkey
      have hnow := hsaved
      rw [Keyed.get?_each, Keyed.get?_only _ htest] at hnow
      change (Keyed.only _ (Keyed.put now.collections name _)).each _ = _
      rw [Keyed.only_put_of_true _ _ htest, Keyed.each_put, hrestore, ← h.restored]
      refine Keyed.put_eq_self (hsaved.trans ?_)
      rw [← hnow]
      unfold collection
      cases hget : Keyed.get? now.collections name with
      | none => rw [hget] at hnow; cases hnow
      | some c => rfl
    · change (Keyed.only _ (Keyed.put now.collections name _)).each _ = _
      rw [Keyed.only_put_of_false _ _ (by simpa using hcovered)]
      exact h.restored
  guarded := by
    intro other hother
    rw [collection_replace]
    split
    next heq =>
      rw [heq] at hother
      exact h.guarded name hother
    next => exact h.guarded other hother

theorem create (h : Since before now) (name : String) : Since before (now.create name) := by
  have htouched : Since before (now.touch name) := h.rewritten name (now.collection name).stored
  rw [create_eq]
  exact ⟨htouched.database, htouched.connected, htouched.covered, htouched.restored,
    htouched.guarded⟩

/-- Going back gives all that there was, but for the list of names. -/
theorem restoreSnapshot_eq (h : Since before now) :
    now.restoreSnapshot =
      { before.discardSnapshot with registered := now.restoreSnapshot.registered } := by
  unfold Backend.restoreSnapshot
  rw [h.covered]
  simp only [discardSnapshot, mk.injEq, and_true]
  exact ⟨h.database, h.connected, h.restored⟩

/-- Of the names listed, those stay whose collections there were. -/
theorem restoreSnapshot_registered (h : Since before now) (hlisted : now.Listed) :
    now.restoreSnapshot.registered =
      now.registered.filter (Keyed.keys before.collections).contains := by
  unfold Backend.restoreSnapshot
  rw [h.covered]
  refine List.filter_congr fun name hname => ?_
  obtain ⟨c, hc⟩ := Keyed.exists_get?_of_mem (hlisted name hname)
  simp [Keyed.has, hc]

end Since

end Backend

namespace Connection

/-! ## What a program of calls keeps -/

/-- A connection on which nothing has been done. -/
def IsNew (c : Connection) : Prop :=
  ∃ database around, c = { backend := { database }, around }

theorem keeps_outside {I : Backend → Prop} {α : Type} (effect : Effect Surroundings α) :
    Keeps (fun c => I c.backend) (outside effect) :=
  fun _ h => h

theorem keeps_change {I : Connection → Prop} {step : Backend → Backend}
    (hstep : ∀ c, I c → I { c with backend := step c.backend }) : Keeps I (change step) :=
  Keeps.modify hstep

theorem keeps_demand {I : Connection → Prop} : Keeps I demand :=
  Keeps.get.bind fun c => by
    split
    · exact Keeps.throw _
    · exact Keeps.pure ()

theorem listed_durable : Durable fun c => c.backend.Listed where
  rewritten := fun _ h name _ _ => h.replace name _
  numbered := fun _ h _ => h
  ticked := fun _ h _ => h
  noted := fun _ h _ => h

/-! ## Snapshots and transactions -/

section

variable {I : Backend → Prop} (hI : Backend.Rewindable I)

include hI

theorem keeps_restoreSnapshot : Keeps (fun c => I c.backend) restoreSnapshot := by
  refine Keeps.get.bind fun c => ?_
  split
  · exact (keeps_change fun _ h => hI.restored _ h).bind fun _ => keeps_outside _
  · exact Keeps.pure ()

theorem keeps_discardSnapshot : Keeps (fun c => I c.backend) discardSnapshot :=
  keeps_change fun _ h => hI.discarded _ h

theorem keeps_takeSnapshot : Keeps (fun c => I c.backend) takeSnapshot :=
  keeps_demand.bind fun _ => keeps_change fun _ h => hI.taken _ h

theorem keeps_begin : Keeps (fun c => I c.backend) Transaction.begin := by
  refine Keeps.get.bind fun c => ?_
  dsimp only
  split
  · exact Keeps.throw _
  · refine (keeps_demand.bind fun _ => keeps_outside _).bind fun session => ?_
    exact Keeps.bind (Keeps.modify fun _ h => h) fun _ => (keeps_takeSnapshot hI).bind fun _ =>
      (keeps_outside _).bind fun _ => Keeps.pure session

theorem keeps_conclude (session : Nat) (outcome : Except Fault Value) :
    Keeps (fun c => I c.backend) (Transaction.conclude session outcome) := by
  have hclose (ending : Except Fault Unit) : Keeps (fun c => I c.backend) (do
      Transaction.close session
      Effect.ofExcept ending
      Effect.ofExcept outcome) :=
    Keeps.bind ((keeps_outside _).bind fun _ => Keeps.modify fun _ h => h) fun _ =>
      (Keeps.ofExcept ending).bind fun _ => Keeps.ofExcept outcome
  cases outcome with
  | ok value =>
      refine Keeps.bind (Keeps.outcome ?_) hclose
      exact (keeps_outside _).bind fun _ => (keeps_discardSnapshot hI).bind fun _ =>
        keeps_outside _
  | error fault =>
      refine Keeps.bind (Keeps.outcome ?_) hclose
      exact (keeps_outside _).bind fun _ => (keeps_restoreSnapshot hI).bind fun _ =>
        keeps_outside _

end

end Connection

namespace Script.BackendCall

open Connection

theorem keeps_listed (call : BackendCall) : Keeps (fun c => c.backend.Listed) call.run := by
  cases call with
  | connect =>
      refine Keeps.bind (Keeps.get.bind fun c => ?_) fun _ => Keeps.pure _
      dsimp only
      split
      · exact Keeps.bind (keeps_change fun _ h => h) fun _ => keeps_outside _
      · exact Keeps.pure ()
  | disconnect =>
      refine Keeps.bind (Keeps.get.bind fun c => ?_) fun _ => Keeps.pure _
      refine (keeps_change fun _ _ name hname => absurd hname List.not_mem_nil).bind fun _ => ?_
      split
      · exact keeps_outside _
      · exact Keeps.pure ()
  | isConnected => exact Keeps.get.bind fun _ => Keeps.pure _
  | listCollections =>
      refine (keeps_demand.bind fun _ => ?_).bind fun _ => Keeps.pure _
      exact Keeps.get.bind fun _ => Keeps.pure _
  | createCollection name =>
      exact (keeps_demand.bind fun _ => keeps_change fun _ h => h.create name).bind fun _ =>
        Keeps.pure _
  | startSession =>
      exact (keeps_demand.bind fun _ => keeps_outside _).bind fun _ => Keeps.get.bind fun _ =>
        Keeps.pure _
  | takeSnapshot =>
      exact (keeps_takeSnapshot Backend.listed_rewindable).bind fun _ => Keeps.pure _
  | restoreSnapshot =>
      exact (keeps_restoreSnapshot Backend.listed_rewindable).bind fun _ => Keeps.pure _
  | discardSnapshot =>
      exact (keeps_discardSnapshot Backend.listed_rewindable).bind fun _ => Keeps.pure _
  | isActive => exact Keeps.get.bind fun _ => Keeps.pure _
  | _ => exact (work_agrees listed_durable.tolerant rfl).keeps

theorem listed_of_reachable {c : Connection} (h : backendHost.Reachable IsNew c) :
    c.backend.Listed := by
  obtain ⟨first, program, ⟨database, around, rfl⟩, rfl⟩ := h
  have hkeeps : Keeps (fun c => c.backend.Listed) (program.run backendHost) :=
    Program.run_keeps keeps_listed (fun _ _ => keeps_outside _)
      (keeps_begin Backend.listed_rewindable) (keeps_conclude Backend.listed_rewindable) program
  exact hkeeps _ fun name hname => absurd hname List.not_mem_nil

/-! ## Calls between a snapshot and going back to it -/

/-- The name of the collection that a call creates on purpose. -/
def createdName? : BackendCall → Option String
  | .createCollection name => some name
  | _ => none

/-- Whether a call works on documents or creates a collection. -/
def isUndone (call : BackendCall) : Bool :=
  call.isWork || call.createdName?.isSome

/-- The names that some calls create on purpose, in turn. -/
def createdNames (calls : List BackendCall) : List String :=
  calls.filterMap createdName?

theorem createdName?_eq_some_iff {call : BackendCall} {name : String} :
    call.createdName? = some name ↔ call = .createCollection name := by
  cases call <;> simp [createdName?]

theorem mem_createdNames {calls : List BackendCall} {name : String} :
    name ∈ createdNames calls ↔ .createCollection name ∈ calls := by
  simp [createdNames, createdName?_eq_some_iff]

theorem apply_createCollection {c : Connection} (hc : c.backend.connected = true) (name : String) :
    (BackendCall.run (.createCollection name)).apply c =
      (.ok .nothing, { c with backend := c.backend.create name }) := by
  change ((Connection.demand >>= fun _ => Connection.change _) >>= fun _ => _).apply c = _
  rw [apply_bind, apply_bind, apply_demand, hc]
  rfl

theorem apply_listCollections {c : Connection} (hc : c.backend.connected = true) :
    (BackendCall.run .listCollections).apply c = (.ok (.names c.backend.registered), c) := by
  change ((Connection.demand >>= fun _ => _) >>= fun _ => _).apply c = _
  rw [apply_bind, apply_bind, apply_demand, hc]
  rfl

theorem since_durable (before : Backend) (names : List String) :
    Durable fun c => Backend.Since before c.backend ∧ c.backend.registered = names where
  rewritten := fun _ h name stored _ => ⟨h.1.rewritten name stored, h.2⟩
  numbered := fun _ h _ => h
  ticked := fun _ h _ => h
  noted := fun _ h _ => h

/-- Work on documents and the creation of collections can be undone, and list no other names than
those created. -/
theorem since_attemptAll {before : Backend} (hbefore : before.connected = true)
    {calls : List BackendCall} (hcalls : ∀ call ∈ calls, call.isUndone = true) {c : Connection}
    (h : Backend.Since before c.backend) :
    Backend.Since before (attemptAll run calls c).2.backend ∧
      (attemptAll run calls c).2.backend.registered =
        (createdNames calls).foldl Backend.enlist c.backend.registered := by
  -- By induction on the calls, with the snapshot they are undone to fixed.
  induction calls generalizing c with
  | nil => exact ⟨h, rfl⟩
  | cons call rest ih =>
      have hrest := fun other hother => hcalls other (List.mem_cons_of_mem call hother)
      have hcall := hcalls call List.mem_cons_self
      unfold isUndone at hcall
      unfold createdNames at ih ⊢
      rw [List.filterMap_cons]
      cases hcreated : call.createdName? with
      | none =>
          rw [hcreated, Option.isSome_none, Bool.or_false] at hcall
          have hkeeps :=
            (work_agrees (since_durable before c.backend.registered).tolerant hcall).keeps
          obtain ⟨hsince, hregistered⟩ := hkeeps c ⟨h, rfl⟩
          obtain ⟨hlast, hlisted⟩ := ih hrest hsince
          exact ⟨hlast, hregistered ▸ hlisted⟩
      | some name =>
          rw [createdName?_eq_some_iff] at hcreated
          subst hcreated
          have hafter := apply_createCollection (h.connected.trans hbefore) name
          have hsince : Backend.Since before
              ((BackendCall.run (.createCollection name)).apply c).2.backend := by
            rw [hafter]
            exact h.create name
          obtain ⟨hlast, hlisted⟩ := ih hrest hsince
          refine ⟨hlast, hlisted.trans ?_⟩
          rw [hafter, List.foldl_cons, ← Backend.create_registered]

end Script.BackendCall

namespace Connection

/-- Two connections hold the same documents in the collections of every name. -/
def SameDocuments (c d : Connection) : Prop :=
  c.backend.connected = d.backend.connected ∧ ∀ name,
    (c.backend.collection name).discardSnapshot = (d.backend.collection name).discardSnapshot

theorem SameDocuments.symm {c d : Connection} (h : SameDocuments c d) : SameDocuments d c :=
  ⟨h.1.symm, fun name => (h.2 name).symm⟩

theorem SameDocuments.trans {c d e : Connection} (h : SameDocuments c d)
    (h' : SameDocuments d e) : SameDocuments c e :=
  ⟨h.1.trans h'.1, fun name => (h.2 name).trans (h'.2 name)⟩

theorem sameDocuments_of_discardSnapshot {c d : Connection} {registered : List String}
    (h : d.backend = { c.backend.discardSnapshot with registered }) : SameDocuments d c := by
  unfold SameDocuments
  rw [h]
  refine ⟨rfl, fun name => ?_⟩
  change (c.backend.discardSnapshot.collection name).discardSnapshot = _
  rw [Backend.discardSnapshot_collection]
  rfl

theorem sameDocuments_legible : Legible SameDocuments where
  connected := fun _ _ h => h.1
  collection := fun _ _ h => h.2
  rewritten := by
    intro c d h name stored _
    refine ⟨h.1, fun other => ?_⟩
    have hname : (c.backend.collection name).name = (d.backend.collection name).name :=
      (congrArg Collection.name (h.2 name) :)
    change ((c.backend.replace name _).collection other).discardSnapshot =
      ((d.backend.replace name _).collection other).discardSnapshot
    rw [Backend.collection_replace, Backend.collection_replace]
    split
    next => simp only [Collection.discardSnapshot, hname]
    next => exact h.2 other
  noted := fun _ _ h _ => h

theorem apply_takeSnapshot {c : Connection} (hc : c.backend.connected = true) :
    takeSnapshot.apply c = (.ok (), { c with backend := c.backend.takeSnapshot }) := by
  rw [takeSnapshot, apply_bind, apply_demand, hc]
  rfl

theorem apply_restoreSnapshot {c : Connection}
    (hcovered : c.backend.snapshotNames.isSome = true) :
    restoreSnapshot.apply c = (.ok (),
      Connection.noted { c with backend := c.backend.restoreSnapshot }
        [⟨Level.debug, "Backend", "Restored collection snapshots", []⟩]) := by
  rw [restoreSnapshot, apply_bind, apply_get]
  dsimp only
  rw [if_pos hcovered]
  rfl

end Connection

namespace Script.BackendCall

open Connection

/-- A connection after some calls between a snapshot and going back to it. -/
def afterRollback (calls : List BackendCall) (c : Connection) : Connection :=
  (attemptAll run (.takeSnapshot :: (calls ++ [.restoreSnapshot])) c).2

/-- Everything is as it was, but that the names stay listed of collections that had come into
being before the snapshot and have been created on purpose since. -/
theorem backend_afterRollback {c : Connection} (hlisted : c.backend.Listed)
    (hc : c.backend.connected = true) {calls : List BackendCall}
    (hcalls : ∀ call ∈ calls, call.isUndone = true) :
    (afterRollback calls c).backend =
      { c.backend.discardSnapshot with
        registered :=
          ((createdNames calls).filter (Keyed.keys c.backend.collections).contains).foldl
            Backend.enlist c.backend.registered } := by
  have htaken : (run .takeSnapshot).apply c =
      (.ok .nothing, { c with backend := c.backend.takeSnapshot }) := by
    change (Connection.takeSnapshot >>= fun _ => _).apply c = _
    rw [apply_bind, apply_takeSnapshot hc]
    rfl
  have hregistered : c.backend.registered.filter (Keyed.keys c.backend.collections).contains =
      c.backend.registered :=
    List.filter_eq_self.mpr fun name hname => List.contains_iff_mem.mpr (hlisted name hname)
  unfold afterRollback
  rw [attemptAll, htaken, attemptAll_append]
  obtain ⟨hsince, hnames⟩ := since_attemptAll hc hcalls
    (c := { c with backend := c.backend.takeSnapshot }) (Backend.takeSnapshot_since c.backend)
  change _ = (createdNames calls).foldl Backend.enlist c.backend.registered at hnames
  have hlast := attemptAll_keeps (I := fun c : Connection => c.backend.Listed)
    (fun call (_ : call ∈ calls) => keeps_listed call)
    (s := { c with backend := c.backend.takeSnapshot }) (hlisted.each _ _)
  generalize (attemptAll run calls { c with backend := c.backend.takeSnapshot }).2 = last at *
  have hcovered : last.backend.snapshotNames.isSome = true := by
    rw [hsince.covered]
    rfl
  have hrestored : (attemptAll run [.restoreSnapshot] last).2.backend =
      last.backend.restoreSnapshot := by
    change ((Connection.restoreSnapshot >>= fun _ => pure Reply.nothing).apply last).2.backend = _
    rw [apply_bind, apply_restoreSnapshot hcovered]
    rfl
  rw [hrestored, hsince.restoreSnapshot_eq, hsince.restoreSnapshot_registered hlast, hnames,
    Backend.filter_foldl_enlist, hregistered]

/-- What it means that calls between a snapshot and going back to it are undone. -/
structure AreUndone (calls : List BackendCall) (c : Connection) : Prop where
  /-- The list is the one from before, with the names added of collections that had come into
  being unlisted and have been created on purpose since. -/
  listed : ((run .listCollections).apply (afterRollback calls c)).1 =
    .ok (.names (((createdNames calls).filter
      (Keyed.keys c.backend.collections).contains).foldl Backend.enlist c.backend.registered))
  /-- So it is the list from before just when there are no such collections. -/
  unchanged : ((run .listCollections).apply (afterRollback calls c)).1 =
      ((run .listCollections).apply c).1 ↔
    ∀ name ∈ Keyed.keys c.backend.collections, .createCollection name ∈ calls →
      name ∈ c.backend.registered
  /-- Any queries, one after the other, are answered as they were before. -/
  answered : ∀ queries : List BackendCall, (∀ query ∈ queries, query.isQuery = true) →
    (attemptAll run queries (afterRollback calls c)).1 = (attemptAll run queries c).1

/-- Going back to a snapshot undoes whatever has been done to documents since, in the collections
of all names; the list of names is the one from before exactly when every collection created on
purpose since was listed already or had not come into being. -/
theorem areUndone_of_reachable (calls : List BackendCall) (c : Connection)
    (hreachable : backendHost.Reachable IsNew c) (hc : c.backend.connected = true)
    (hcalls : ∀ call ∈ calls, call.isUndone = true) : AreUndone calls c := by
  have hbackend := backend_afterRollback (listed_of_reachable hreachable) hc hcalls
  have hconnected : (afterRollback calls c).backend.connected = true := by rw [hbackend]; exact hc
  have hlisted : ((run .listCollections).apply (afterRollback calls c)).1 =
      .ok (.names (((createdNames calls).filter
        (Keyed.keys c.backend.collections).contains).foldl
          Backend.enlist c.backend.registered)) := by
    rw [apply_listCollections hconnected, hbackend]
  refine ⟨hlisted, ?_, ?_⟩
  · rw [hlisted, apply_listCollections hc]
    simp only [Except.ok.injEq, Reply.names.injEq, Backend.foldl_enlist_eq_self_iff,
      List.mem_filter, mem_createdNames, List.contains_iff_mem]
    exact ⟨fun h name hkey hcreated => h name ⟨hcreated, hkey⟩,
      fun h name hname => h name hname.2 hname.1⟩
  · intro queries hqueries
    exact (attemptAll_agrees (fun query hquery =>
      query_agrees sameDocuments_legible.readable (hqueries query hquery))
      (sameDocuments_of_discardSnapshot hbackend)).1

/-- A connection to a backend of which one collection has been read that was not created. -/
def onlyRead : Connection :=
  ((Program.run backendHost (.call .connect fun _ => .call (.count "X" .null) fun _ =>
    .finish (.ok .null))).apply { backend := { database := "docstore" } }).2

/-- A new collection and a document of it are undone. -/
theorem areUndone_of_new_collection :
    (∀ call ∈ [createCollection "Y", insert "Y" (.object [("_id", .text "1")])],
      call.isUndone = true) ∧
    AreUndone [createCollection "Y", insert "Y" (.object [("_id", .text "1")])] onlyRead :=
  ⟨by decide, areUndone_of_reachable _ onlyRead ⟨_, _, ⟨_, _, rfl⟩, rfl⟩ rfl (by decide)⟩

/-- Creating the collection on purpose that has been read is not undone: the list was empty, and
has its name afterwards. -/
theorem creation_of_read_collection_stays :
    backendHost.Reachable IsNew onlyRead ∧ onlyRead.backend.connected = true ∧
    (∀ call ∈ [createCollection "X"], call.isUndone = true) ∧
    ((run .listCollections).apply onlyRead).1 = .ok (.names []) ∧
    ((run .listCollections).apply (afterRollback [createCollection "X"] onlyRead)).1 =
      .ok (.names ["X"]) :=
  ⟨⟨_, _, ⟨_, _, rfl⟩, rfl⟩, rfl, by decide, rfl, rfl⟩

end Script.BackendCall

end Docbase
