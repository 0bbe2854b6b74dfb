import Docbase.Proofs.Rollback

/-! # What comes out of a transaction

A transaction concludes in one of three ways, which depend on the outcome of its work and on
whether the session is still open by then: it is committed, it is rolled back, or the session
refuses either, in which case nothing is undone and the refusal is what comes out.
-/

namespace Docbase

open Effect Script

namespace Connection

/-- The session of a number. -/
def session (c : Connection) (number : Nat) : Session :=
  c.around.sessions[number]?.getD {}

/-- The connection with another state of the session of a number. -/
def withSession (c : Connection) (number : Nat) (session : Session) : Connection :=
  { c with around := { c.around with sessions := c.around.sessions.set number session } }

theorem session_withSession {c : Connection} {number : Nat}
    (hnumber : number < c.around.sessions.length) (s : Session) :
    (c.withSession number s).session number = s := by
  unfold session withSession
  rw [List.getElem?_set_self hnumber]
  rfl

theorem apply_callSession (c : Connection) (number : Nat) (call : SessionCall) :
    (outside (Surroundings.callSession number call)).apply c =
      match (c.session number).call call with
      | .ok s => (.ok s, c.withSession number s)
      | .error cause => (.error (.session cause), c) := by
  rw [outside, apply_onPart, Surroundings.callSession, apply_ofFunction]
  unfold session
  cases (c.around.sessions[number]?.getD {}).call call <;> rfl

end Connection

/-- Only its end ends a session. -/
theorem Session.call_hasEnded {before after : Session} {call : SessionCall} (hcall : call ≠ .finish)
    (h : before.call call = .ok after) : after.hasEnded = before.hasEnded := by
  unfold Session.call at h
  cases hended : before.hasEnded with
  | true => cases call <;> simp_all
  | false =>
      cases call with
      | finish => exact absurd rfl hcall
      | start =>
          simp only [hended, Bool.false_eq_true, ↓reduceIte] at h
          split at h
          next => cases h
          next => cases h; rfl
      | commit =>
          simp only [hended, Bool.false_eq_true, ↓reduceIte, Except.ok.injEq] at h
          rw [← h]
      | abort =>
          simp only [hended, Bool.false_eq_true, ↓reduceIte, Except.ok.injEq] at h
          rw [← h]

namespace Transaction

/-- The connection when the work of a transaction starts. -/
def begun (c : Connection) : Connection :=
  { c with
    backend := c.backend.takeSnapshot
    isActive := true
    around := { c.around with sessions := c.around.sessions ++ [⟨true, false⟩] } }

/-- The connection when a transaction is over. -/
def closed (c : Connection) (session : Nat) : Connection :=
  { c.withSession session ⟨false, true⟩ with isActive := false }

theorem apply_begin {c : Connection} (hc : c.backend.connected = true)
    (hidle : c.isActive = false) :
    begin.apply c = (.ok c.around.sessions.length, begun c) := by
  have hopened : Connection.startSession.apply c = (.ok c.around.sessions.length,
      { c with around := { c.around with sessions := c.around.sessions ++ [{}] } }) := by
    rw [Connection.startSession, apply_bind, Connection.apply_demand, hc]
    rfl
  have hsession :
      (c.around.sessions ++ [({} : Session)])[c.around.sessions.length]?.getD {} = {} := by
    simp
  rw [begin, apply_bind, apply_get]
  dsimp only
  rw [if_neg (by simp [hidle]), apply_bind, hopened]
  dsimp only
  rw [apply_bind, apply_modify]
  dsimp only
  rw [apply_bind, Connection.apply_takeSnapshot (by exact hc)]
  dsimp only
  rw [apply_bind, Connection.apply_callSession]
  unfold Connection.session
  dsimp only
  rw [hsession]
  simp [Session.call, Connection.withSession, begun]

/-- While a transaction is in flight no other begins. -/
theorem apply_begin_of_active {c : Connection} (hactive : c.isActive = true) :
    begin.apply c = (.error (.session .nested), c) := by
  rw [begin, apply_bind, apply_get]
  dsimp only
  rw [if_pos hactive]
  rfl

theorem apply_close (c : Connection) (session : Nat) :
    (close session).apply c = (.ok (), closed c session) := by
  rw [close, apply_bind, Connection.apply_callSession]
  rfl

/-- What is left to do once the session has committed, aborted or refused. -/
theorem apply_conclude {α : Type} (session : Nat) (outcome : Except Fault α) (c : Connection) :
    (conclude session outcome).apply c =
      match ((match outcome with
          | .ok _ => commit session
          | .error fault => rollback session fault.kind).apply c) with
      | (.ok (), after) => (outcome, closed after session)
      | (.error fault, after) => (.error fault, closed after session) := by
  unfold conclude
  rw [apply_bind, apply_outcome]
  generalize (match outcome with
    | .ok _ => commit session
    | .error fault => rollback session fault.kind).apply c = ending
  obtain ⟨result, after⟩ := ending
  dsimp only
  rw [apply_bind, apply_close]
  dsimp only
  cases result with
  | ok _ => rfl
  | error fault => rfl

variable {c : Connection} {session : Nat}

/-- A session that is over refuses, and nothing is undone. -/
theorem apply_conclude_of_ended {α : Type} (hended : (c.session session).hasEnded = true)
    (outcome : Except Fault α) :
    (conclude session outcome).apply c = (.error (.session .ended), closed c session) := by
  have hcommit : (commit session).apply c = (.error (.session .ended), c) := by
    rw [commit, apply_bind, Connection.apply_callSession]
    simp [Session.call, hended]
  have hrollback (kind : String) :
      (rollback session kind).apply c = (.error (.session .ended), c) := by
    rw [rollback, apply_bind, Connection.apply_callSession]
    simp [Session.call, hended]
  rw [apply_conclude]
  cases outcome with
  | ok value => rw [hcommit]
  | error fault => rw [hrollback]

theorem apply_conclude_ok {α : Type} (hopen : (c.session session).hasEnded = false) (value : α) :
    (conclude session (.ok value)).apply c = (.ok value, closed
      (Connection.noted { c with backend := c.backend.discardSnapshot }
        [⟨Level.debug, "Tx", "Transaction committed", []⟩]) session) := by
  have hcommit : (commit session).apply c = (.ok (),
      Connection.noted
        { c.withSession session { c.session session with inTransaction := false } with
          backend := c.backend.discardSnapshot }
        [⟨Level.debug, "Tx", "Transaction committed", []⟩]) := by
    rw [commit, apply_bind, Connection.apply_callSession]
    simp only [Session.call, hopen, Bool.false_eq_true, ↓reduceIte]
    rfl
  rw [apply_conclude, hcommit]
  simp only [closed, Connection.noted, Connection.withSession, List.set_set]

theorem apply_conclude_error {α : Type} (hopen : (c.session session).hasEnded = false)
    (hcovered : c.backend.snapshotNames.isSome = true) (fault : Fault) :
    (conclude session (.error fault : Except Fault α)).apply c = (.error fault, closed
      (Connection.noted { c with backend := c.backend.restoreSnapshot }
        [⟨Level.debug, "Backend", "Restored collection snapshots", []⟩,
          ⟨Level.info, "Tx", "Transaction aborted, collections restored",
            [("error", .text fault.kind)]⟩]) session) := by
  have hrollback : (rollback session fault.kind).apply c = (.ok (),
      Connection.noted
        { c.withSession session { c.session session with inTransaction := false } with
          backend := c.backend.restoreSnapshot }
        [⟨Level.debug, "Backend", "Restored collection snapshots", []⟩,
          ⟨Level.info, "Tx", "Transaction aborted, collections restored",
            [("error", .text fault.kind)]⟩]) := by
    rw [rollback, apply_bind, Connection.apply_callSession]
    simp only [Session.call, hopen, Bool.false_eq_true, ↓reduceIte]
    rw [apply_bind, Connection.apply_restoreSnapshot (by exact hcovered)]
    simp [Connection.outside, Surroundings.log, Connection.noted, Connection.withSession]
  rw [apply_conclude, hrollback]
  simp only [closed, Connection.noted, Connection.withSession, List.set_set]

/-! ## Work that uses its session -/

/-- What there is of a connection while a transaction that began on it is in flight. -/
structure Running (before now : Connection) : Prop where
  since : Backend.Since before.backend now.backend
  isActive : now.isActive = true
  handed : before.around.sessions.length < now.around.sessions.length

theorem running_begun (c : Connection) : Running c (begun c) where
  since := Backend.takeSnapshot_since c.backend
  isActive := rfl
  handed := by simp [begun]

theorem running_durable (before : Connection) : Connection.Durable (Running before) where
  rewritten := fun _ h name stored _ => ⟨h.since.rewritten name stored, h.isActive, h.handed⟩
  numbered := fun _ h _ => ⟨h.since, h.isActive, h.handed⟩
  ticked := fun _ h _ => ⟨h.since, h.isActive, h.handed⟩
  noted := fun _ h _ => ⟨h.since, h.isActive, h.handed⟩

/-- What work on documents, the creation of collections and calls of sessions keep is what programs
of them keep while a transaction is in flight. -/
theorem keeps_program {I : Connection → Prop} {mayCallSession : Nat → SessionCall → Prop}
    (hwork : Connection.Durable I)
    (hcreate : ∀ c, I c → ∀ name, I { c with backend := c.backend.create name })
    (hsession : ∀ number call, mayCallSession number call →
      Keeps I (Connection.outside (Surroundings.callSession number call)))
    (hactive : ∀ c, I c → c.isActive = true) {program : Program BackendCall}
    (hmakes : program.Makes (fun call => call.isUndone = true) mayCallSession) :
    Keeps I (program.run backendHost) := by
  have hcall (call : BackendCall) (hundone : call.isUndone = true) : Keeps I call.run := by
    unfold BackendCall.isUndone at hundone
    cases hcreated : call.createdName? with
    | none =>
        rw [hcreated, Option.isSome_none, Bool.or_false] at hundone
        exact (BackendCall.work_agrees hwork.tolerant hundone).keeps
    | some name =>
        rw [BackendCall.createdName?_eq_some_iff] at hcreated
        subst hcreated
        refine Keeps.bind (Connection.keeps_demand.bind fun _ => ?_) fun _ => Keeps.pure _
        exact Connection.keeps_change fun c h => hcreate c h name
  have hagrees : Agrees (fun s t => s = t ∧ I s) (program.run backendHost)
      (program.withoutTransactions.run backendHost) := by
    refine Program.run_agrees (fun call hundone => (hcall call hundone).agrees)
      (fun number call hmay => (hsession number call hmay).agrees) ?_ program hmakes
    rintro c _ ⟨-, h⟩
    exact apply_begin_of_active (hactive c h)
  exact fun c h => (hagrees c c ⟨rfl, h⟩).2.2

theorem keeps_running_callSession (before : Connection) (number : Nat) (call : SessionCall) :
    Keeps (Running before) (Connection.outside (Surroundings.callSession number call)) := by
  intro c h
  rw [Connection.apply_callSession]
  split
  next => exact ⟨h.since, h.isActive, by simpa [Connection.withSession] using h.handed⟩
  next => exact h

theorem running_open_durable (before : Connection) : Connection.Durable fun now =>
    Running before now ∧ (now.session before.around.sessions.length).hasEnded = false where
  rewritten := fun _ h name stored hrevision =>
    ⟨(running_durable before).rewritten _ h.1 name stored hrevision, h.2⟩
  numbered := fun _ h lastId => ⟨(running_durable before).numbered _ h.1 lastId, h.2⟩
  ticked := fun _ h now => ⟨(running_durable before).ticked _ h.1 now, h.2⟩
  noted := fun _ h entries => ⟨(running_durable before).noted _ h.1 entries, h.2⟩

theorem keeps_open_callSession (before : Connection) {number : Nat} {call : SessionCall}
    (hcall : number = before.around.sessions.length ∧ call ≠ .finish) :
    Keeps (fun now => Running before now ∧
        (now.session before.around.sessions.length).hasEnded = false)
      (Connection.outside (Surroundings.callSession number call)) := by
  obtain ⟨rfl, hfinish⟩ := hcall
  intro c h
  refine ⟨keeps_running_callSession before _ call c h.1, ?_⟩
  rw [Connection.apply_callSession]
  split
  next s hs =>
    dsimp only
    rw [Connection.session_withSession h.1.handed, Session.call_hasEnded hfinish hs]
    exact h.2
  next => exact h.2

/-- A transaction is all or nothing: what its work gave is what comes out, and a fault leaves the
documents as they were before, while a value leaves them as the work has. Given are the outcomes of
the work and of the transaction, each with the connection afterwards. -/
def AllOrNothing (before : Connection) (work result : Except Fault Value × Connection) : Prop :=
  result.1 = work.1 ∧
    match work.1 with
    | .ok _ => Connection.SameDocuments result.2 work.2
    | .error _ => Connection.SameDocuments result.2 before

/-- What comes out of a transaction whose work may have used its session. -/
structure Settled (before : Connection) (session : Nat)
    (work result : Except Fault Value × Connection) : Prop where
  /-- The transaction is all or nothing just when the work has left the session open, or has itself
  given the refusal of a session that is over and written nothing. -/
  allOrNothing_iff : AllOrNothing before work result ↔
    (work.2.session session).hasEnded = false ∨
      work.1 = .error (.session .ended) ∧ Connection.SameDocuments work.2 before
  /-- When the session is over, its refusal comes out, and what the work has written stays. -/
  ended : (work.2.session session).hasEnded = true →
    result.1 = .error (.session .ended) ∧ Connection.SameDocuments result.2 work.2
  /-- The session is over afterwards, and no transaction is in flight. -/
  finished : result.2.session session = ⟨false, true⟩ ∧ result.2.isActive = false

theorem Running.finished {before now : Connection} (h : Running before now) :
    (closed now before.around.sessions.length).session before.around.sessions.length =
        ⟨false, true⟩ ∧
      (closed now before.around.sessions.length).isActive = false :=
  ⟨Connection.session_withSession h.handed _, rfl⟩

theorem settled_of_running {before : Connection} {work : Except Fault Value × Connection}
    (h : Running before work.2) :
    Settled before before.around.sessions.length work
      ((conclude before.around.sessions.length work.1).apply work.2) := by
  obtain ⟨outcome, now⟩ := work
  dsimp only at h ⊢
  cases hended : (now.session before.around.sessions.length).hasEnded with
  | true =>
      rw [apply_conclude_of_ended hended]
      have hkept : Connection.SameDocuments (closed now before.around.sessions.length) now :=
        ⟨rfl, fun _ => rfl⟩
      refine ⟨?_, fun _ => ⟨rfl, hkept⟩, h.finished⟩
      -- The refusal can be what the work gave, and then nothing must have been written.
      simp only [hended, Bool.true_eq_false, false_or]
      constructor
      · rintro ⟨hsame, hdocuments⟩
        dsimp only at hsame hdocuments
        rw [← hsame] at hdocuments ⊢
        exact ⟨rfl, hkept.symm.trans hdocuments⟩
      · rintro ⟨rfl, hdocuments⟩
        exact ⟨rfl, hkept.trans hdocuments⟩
  | false =>
      cases outcome with
      | ok value =>
          rw [apply_conclude_ok hended]
          refine ⟨⟨fun _ => Or.inl hended, fun _ => ⟨rfl, ?_⟩⟩, ?_, ?_⟩
          · exact Connection.sameDocuments_of_discardSnapshot rfl
          · intro htrue
            rw [hended] at htrue
            cases htrue
          · exact ⟨Connection.session_withSession h.handed _, rfl⟩
      | error fault =>
          rw [apply_conclude_error hended (by rw [h.since.covered]; rfl)]
          refine ⟨⟨fun _ => Or.inl hended, fun _ => ⟨rfl, ?_⟩⟩, ?_, ?_⟩
          · exact Connection.sameDocuments_of_discardSnapshot h.since.restoreSnapshot_eq
          · intro htrue
            rw [hended] at htrue
            cases htrue
          · exact ⟨Connection.session_withSession h.handed _, rfl⟩

theorem apply_run {α : Type} {c : Connection} (hc : c.backend.connected = true)
    (hidle : c.isActive = false) (work : Nat → Effect Connection α) :
    (run work).apply c =
      (conclude c.around.sessions.length ((work c.around.sessions.length).apply (begun c)).1).apply
        ((work c.around.sessions.length).apply (begun c)).2 := by
  rw [run, Effect.bracket, apply_bind, apply_begin hc hidle]
  rfl

/-- Whatever the work writes and however it uses its session, a transaction is all or nothing just
when the work does not end the session. While another transaction is in flight, nothing
happens. -/
theorem run_settled (c : Connection) (hc : c.backend.connected = true)
    (body : Nat → Program BackendCall)
    (hbody : ∀ session, (body session).Makes (fun call => call.isUndone = true)
      fun number _ => number = session) :
    (c.isActive = true → (run fun session => (body session).run backendHost).apply c =
      (.error (.session .nested), c)) ∧
    (c.isActive = false → Settled c c.around.sessions.length
      (((body c.around.sessions.length).run backendHost).apply (begun c))
      ((run fun session => (body session).run backendHost).apply c)) := by
  constructor
  · intro hactive
    rw [run, Effect.bracket, apply_bind, apply_begin_of_active hactive]
  · intro hidle
    rw [apply_run hc hidle]
    exact settled_of_running (keeps_program (running_durable c)
      (fun _ h name => ⟨h.since.create name, h.isActive, h.handed⟩)
      (fun number call _ => keeps_running_callSession c number call) (fun _ h => h.isActive)
      (hbody _) (begun c) (running_begun c))

/-- Work that does not ask for the end of its session leaves it open, so that the transaction is all
or nothing however often the work commits, aborts or starts anew. -/
theorem run_allOrNothing {c : Connection} (hc : c.backend.connected = true)
    (hidle : c.isActive = false) {body : Nat → Program BackendCall}
    (hbody : ∀ session, (body session).Makes (fun call => call.isUndone = true)
      fun number call => number = session ∧ call ≠ .finish) :
    AllOrNothing c (((body c.around.sessions.length).run backendHost).apply (begun c))
      ((run fun session => (body session).run backendHost).apply c) := by
  have hstart : (begun c).session c.around.sessions.length = ⟨true, false⟩ := by
    simp [begun, Connection.session]
  have hwork := keeps_program (running_open_durable c)
    (fun _ h name => ⟨⟨h.1.since.create name, h.1.isActive, h.1.handed⟩, h.2⟩)
    (fun number call hmay => keeps_open_callSession c hmay) (fun _ h => h.1.isActive)
    (hbody c.around.sessions.length) (begun c) ⟨running_begun c, by rw [hstart]⟩
  rw [apply_run hc hidle]
  exact (settled_of_running hwork.1).allOrNothing_iff.mpr (Or.inl hwork.2)

section

open BackendCall

/-- A connection to an empty backend. -/
def fresh : Connection :=
  { backend := { database := "docstore", connected := true } }

/-- The work that stores a document, aborts and starts anew in its session, and fails. -/
def abortsAndFails (session : Nat) : Program BackendCall :=
  .call (.insert "Deal" (.object [("_id", .text "1")])) fun _ => .session session .abort fun _ =>
    .session session .start fun _ => .finish (.error (.foreign "Boom" "boom"))

theorem run_settled_abortsAndFails :
    fresh.backend.connected = true ∧
    (∀ session, (abortsAndFails session).Makes (fun call => call.isUndone = true)
      fun number _ => number = session) ∧
    Settled fresh 0 (((abortsAndFails 0).run backendHost).apply (begun fresh))
      ((run fun session => (abortsAndFails session).run backendHost).apply fresh) :=
  ⟨rfl, fun _ => ⟨rfl, fun _ => ⟨rfl, fun _ => ⟨rfl, fun _ => trivial⟩⟩⟩,
    (run_settled fresh rfl abortsAndFails
      fun _ => ⟨rfl, fun _ => ⟨rfl, fun _ => ⟨rfl, fun _ => trivial⟩⟩⟩).2 rfl⟩

/-- The work that stores a document, ends its session, and fails. -/
def endsAndFails (session : Nat) : Program BackendCall :=
  .call (.insert "Deal" (.object [("_id", .text "1")])) fun _ => .session session .finish fun _ =>
    .finish (.error (.foreign "Boom" "boom"))

/-- When the work has ended its session, the fault of the work does not come out, and the document
that it stored stays. -/
theorem write_stays_after_endsAndFails :
    (∀ session, (endsAndFails session).Makes (fun call => call.isUndone = true)
      fun number _ => number = session) ∧
    (((endsAndFails 0).run backendHost).apply (begun fresh)).1 =
      .error (.foreign "Boom" "boom") ∧
    ((run fun session => (endsAndFails session).run backendHost).apply fresh).1 =
      .error (.session .ended) ∧
    (fresh.backend.collection "Deal").documents = [] ∧
    (((run fun session => (endsAndFails session).run backendHost).apply
      fresh).2.backend.collection "Deal").documents = [[("_id", .text "1")]] :=
  ⟨fun _ => ⟨rfl, fun _ => ⟨rfl, fun _ => trivial⟩⟩, rfl, rfl, rfl, rfl⟩

end

end Transaction

end Docbase
