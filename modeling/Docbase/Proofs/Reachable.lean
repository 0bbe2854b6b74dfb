import Docbase.Proofs.Records
import Docbase.Proofs.Transaction

/-! # Stores between transactions

Whatever programs have been run on a store, no transaction is in flight on it afterwards: a
transaction is concluded on the backend that it began on, and a backend that has gone takes its
transaction with it. And every name on the list of a backend is that of a collection.
-/

namespace Docbase.Store

open Effect Script

/-- A store on which nothing has been done. -/
def State.IsNew (s : State) : Prop :=
  ∃ around, s = { around }

/-- A transaction is in flight only where there is a backend, and on a backend every name listed is
that of a collection. -/
inductive Sound : State → Prop
  | absent (generation : Nat) (around : Surroundings) : Sound (.absent generation around)
  | present (generation : Nat) (c : Connection) (h : c.backend.Listed) :
      Sound (.present generation c)

/-- What can be said of the state after a sound one: it is sound, and a transaction that is in
flight has been since before, on a backend that is still there. -/
structure Follows (s t : State) : Prop where
  sound : Sound t
  inFlight : t.isActive = true → s.isActive = true ∧ t.generation = s.generation

theorem Follows.refl {s : State} (h : Sound s) : Follows s s :=
  ⟨h, fun hactive => ⟨hactive, rfl⟩⟩

theorem Follows.trans {s t u : State} (h : Follows s t) (h' : Follows t u) : Follows s u := by
  refine ⟨h'.sound, fun hactive => ?_⟩
  obtain ⟨hbefore, hgeneration⟩ := h'.inFlight hactive
  obtain ⟨hfirst, hsame⟩ := h.inFlight hbefore
  exact ⟨hfirst, hgeneration.trans hsame⟩

/-- A sound state without a transaction in flight follows any other. -/
theorem Follows.of_idle {s t : State} (hsound : Sound t) (hidle : t.isActive = false) :
    Follows s t := by
  refine ⟨hsound, fun hactive => ?_⟩
  rw [hidle] at hactive
  cases hactive

/-- An operation leads from a sound state to one that follows it. -/
def Orderly {α : Type} (effect : Operation α) : Prop :=
  Within (fun s t => Sound s → Follows s t) effect

variable {α : Type}

theorem follows_trans (s t u : State) (h : Sound s → Follows s t) (h' : Sound t → Follows t u)
    (hs : Sound s) : Follows s u :=
  (h hs).trans (h' (h hs).sound)

section

variable {effect : Operation α}
  (h : ∀ generation R, Connection.Tolerant R → Agrees (Lifted generation True R) effect effect)

include h

theorem after_absent_of_agrees (generation : Nat) (around : Surroundings) :
    ∃ around', (effect.apply (.absent generation around)).2 = .absent generation around' := by
  -- No two connections are related, so that no backend can have appeared.
  have hnever : Connection.Durable fun _ => False :=
    ⟨fun _ h => h.elim, fun _ h => h.elim, fun _ h => h.elim, fun _ h => h.elim⟩
  obtain ⟨-, hlacks⟩ | ⟨_, _, hnone, -⟩ :=
    (h generation _ hnever.tolerant _ _ (.absent around trivial)).2.left
  · exact hlacks
  · exact hnone.2.elim

theorem after_present_of_agrees {I : Connection → Prop} (hI : Connection.Durable I)
    (generation : Nat) {c : Connection} (hc : I c) :
    (∃ around, (effect.apply (.present generation c)).2 = .absent generation around) ∨
      ∃ d, I d ∧ (effect.apply (.present generation c)).2 = .present generation d := by
  obtain ⟨-, hlacks⟩ | ⟨d, _, ⟨-, hd⟩, hafter⟩ :=
    (h generation _ hI.tolerant _ _ (.present c c ⟨rfl, hc⟩)).2.left
  · exact .inl hlacks
  · exact .inr ⟨d, hd, hafter⟩

/-- What agrees with itself wherever work on records does is orderly. -/
theorem orderly_of_agrees : Orderly effect := by
  intro s hs
  cases hs with
  | absent generation around =>
      obtain ⟨around', hafter⟩ := after_absent_of_agrees h generation around
      rw [hafter]
      exact .of_idle (.absent generation around') rfl
  | present generation c hlisted =>
      have hkept : Connection.Durable fun d => d.backend.Listed ∧ d.isActive = c.isActive :=
        ⟨fun _ h name _ _ => ⟨h.1.replace name _, h.2⟩, fun _ h _ => h, fun _ h _ => h,
          fun _ h _ => h⟩
      obtain ⟨around, hafter⟩ | ⟨d, ⟨hlisted', hactive⟩, hafter⟩ :=
        after_present_of_agrees h hkept generation ⟨hlisted, rfl⟩
      · rw [hafter]
        exact .of_idle (.absent generation around) rfl
      · rw [hafter]
        exact ⟨.present generation d hlisted', fun h => ⟨hactive.symm.trans h, rfl⟩⟩

end

theorem orderly_outside (effect : Effect Surroundings α) : Orderly (outside effect) := by
  intro s hs
  cases hs with
  | absent generation around => exact .of_idle (.absent generation _) rfl
  | present generation c hlisted =>
      rw [apply_outside_present]
      exact ⟨.present generation _ hlisted, fun h => ⟨h, rfl⟩⟩

/-! ## Connecting and disconnecting -/

theorem keeps_onGeneration {I : Connection → Prop} {effect : Effect Connection α}
    (h : Keeps I effect) (generation : Nat) :
    Keeps (fun s => ∃ c, s = .present generation c ∧ I c) (onGeneration generation effect) := by
  rintro s ⟨c, rfl, hc⟩
  rw [apply_onGeneration_present]
  exact ⟨_, rfl, h c hc⟩

theorem keeps_outside {I : Connection → Prop} {effect : Effect Surroundings α}
    (h : Keeps I (Connection.outside effect)) (generation : Nat) :
    Keeps (fun s => ∃ c, s = .present generation c ∧ I c) (outside effect) := by
  rintro s ⟨c, rfl, hc⟩
  rw [apply_outside_present]
  exact ⟨_, rfl, h c hc⟩

/-- A connection whose names listed are those of collections and on which no transaction is in
flight. -/
def Idle (c : Connection) : Prop :=
  c.backend.Listed ∧ c.isActive = false

theorem keeps_idle_outside (effect : Effect Surroundings α) :
    Keeps Idle (Connection.outside effect) :=
  fun _ h => h

theorem apply_connect (c : Connection) : (Connection.connect.apply c).1 = .ok () := by
  rw [Connection.connect, apply_bind, apply_get]
  dsimp only
  split <;> rfl

theorem keeps_idle_connect : Keeps Idle Connection.connect := by
  refine Keeps.get.bind fun c => ?_
  dsimp only
  split
  · exact Keeps.bind (Connection.keeps_change fun _ h => h) fun _ => keeps_idle_outside _
  · exact Keeps.pure ()

theorem keeps_idle_createCollection (name : String) :
    Keeps Idle (Connection.createCollection name) :=
  Connection.keeps_demand.bind fun _ =>
    Connection.keeps_change fun _ h => ⟨h.1.create name, h.2⟩

/-- What connecting does with a new backend. -/
def opening (store : Store) (database : String) : Operation Unit := do
  modify fun s =>
    { s with backend := some { database }, isActive := false, generation := s.generation + 1 }
  let generation := (← get).generation
  onGeneration generation Connection.connect
  let names := store.registry.resourceNames
  names.forM fun name => onGeneration generation (Connection.createCollection name)
  report ("Connected to '" ++ store.config.database ++ "'")
    [("backend", .text "InMemoryBackend"), ("collections", .int names.length)]

/-- Connecting leaves a new backend behind, on which collections have been created. -/
theorem apply_opening {I : Connection → Prop}
    (hconnect : ∀ database around,
      I (Connection.connect.apply { backend := { database }, around }).2)
    (hcreate : ∀ name, Keeps I (Connection.createCollection name))
    (houtside : ∀ effect : Effect Surroundings Unit, Keeps I (Connection.outside effect))
    (store : Store) (database : String) (s : State) :
    ∃ c, ((store.opening database).apply s).2 = .present (s.generation + 1) c ∧ I c := by
  have hrest : Keeps (fun u => ∃ c, u = .present (s.generation + 1) c ∧ I c) (do
      let names := store.registry.resourceNames
      names.forM fun name =>
        onGeneration (s.generation + 1) (Connection.createCollection name)
      report ("Connected to '" ++ store.config.database ++ "'")
        [("backend", .text "InMemoryBackend"), ("collections", .int names.length)]) :=
    (Keeps.forM (fun name => keeps_onGeneration (hcreate name) _) _).bind fun _ =>
      keeps_outside (houtside _) _
  obtain ⟨c, hafter, hc⟩ := hrest _ ⟨_, rfl, hconnect database s.around⟩
  refine ⟨c, ?_, hc⟩
  rw [← hafter, opening, apply_bind, apply_modify]
  change ((onGeneration (s.generation + 1) Connection.connect >>= fun _ => _).apply
    (.present (s.generation + 1) { backend := { database }, around := s.around })).2 = _
  rw [apply_bind, apply_onGeneration_present, apply_connect]

theorem follows_opening (store : Store) (database : String) (s t : State) :
    Follows s ((store.opening database).apply t).2 := by
  have hnew (database : String) (around : Surroundings) :
      Idle { backend := { database }, around } :=
    ⟨fun _ hname => absurd hname List.not_mem_nil, rfl⟩
  obtain ⟨c, hafter, hlisted, hidle⟩ :=
    apply_opening (fun database around => keeps_idle_connect _ (hnew database around))
      keeps_idle_createCollection keeps_idle_outside store database t
  rw [hafter]
  exact .of_idle (.present _ c hlisted) hidle

theorem orderly_connect (store : Store) : Orderly store.connect := by
  intro s hs
  rw [connect, apply_bind, apply_get]
  dsimp only
  split
  · split
    · rw [apply_bind]
      exact follows_opening store _ s _
    · exact follows_opening store _ s s
  · exact .refl hs

theorem apply_disconnect (c : Connection) : (Connection.disconnect.apply c).1 = .ok () := by
  rw [Connection.disconnect, apply_bind, apply_get]
  dsimp only
  rw [apply_bind, Connection.apply_change]
  dsimp only
  split <;> rfl

theorem disconnect_present (store : Store) (generation : Nat) (c : Connection) :
    store.disconnect.apply (.present generation c) =
      (.ok (), .absent generation (((Connection.outside (Surroundings.log Level.info "Store"
        ("Disconnected from '" ++ store.config.database ++ "'") [])).apply
          (Connection.disconnect.apply c).2).2.around)) := by
  have hok := apply_disconnect c
  rw [disconnect, apply_bind, apply_get]
  change (onGeneration generation Connection.disconnect >>= fun _ => _).apply
    (.present generation c) = _
  rw [apply_bind, apply_onGeneration_present, hok]
  rfl

theorem orderly_disconnect (store : Store) : Orderly store.disconnect := by
  intro s hs
  cases hs with
  | absent generation around => exact .refl (.absent generation around)
  | present generation c hlisted =>
      rw [disconnect_present]
      exact .of_idle (.absent generation _) rfl

/-! ## Transactions -/

theorem apply_begin {generation : Nat} {c : Connection} (hc : c.backend.connected = true)
    (hidle : c.isActive = false) :
    begin.apply (.present generation c) =
      (.ok (generation, c.around.sessions.length), .present generation (Transaction.begun c)) := by
  rw [begin, apply_bind, apply_onBackend_present generation hc, Transaction.apply_begin hc hidle]
  rfl

theorem apply_begin_of_active {generation : Nat} {c : Connection}
    (hc : c.backend.connected = true) (hactive : c.isActive = true) :
    begin.apply (.present generation c) =
      (.error (.session .nested), .present generation c) := by
  rw [begin, apply_bind, apply_onBackend_present generation hc,
    Transaction.apply_begin_of_active hactive]

/-- What is done on a backend of another generation leaves the present one alone. -/
theorem apply_onGeneration_other {number generation : Nat} (hnumber : number ≠ generation)
    (c : Connection) (effect : Effect Connection α) :
    ∃ around, ((onGeneration number effect).apply (.present generation c)).2 =
      .present generation { c with around } := by
  refine ⟨(effect.apply ((State.present generation c).connection number)).2.around, ?_⟩
  rw [onGeneration, apply_onPart, State.adopt, if_neg (fun h => hnumber h.2.symm)]
  rfl

/-- However a transaction ends, none is in flight afterwards. -/
theorem conclude_isActive (session : Nat) (outcome : Except Fault Value) (c : Connection) :
    ((Transaction.conclude session outcome).apply c).2.isActive = false := by
  rw [Transaction.apply_conclude]
  split <;> rfl

theorem follows_conclude {s t : State} {generation session : Nat} (hsound : Sound t)
    (hsame : t.isActive = true → t.generation = generation) (outcome : Except Fault Value) :
    Follows s ((conclude (generation, session) outcome).apply t).2 := by
  cases hsound with
  | absent number around =>
      rw [conclude, apply_onGeneration_absent]
      exact .of_idle (.absent number _) rfl
  | present number c hlisted =>
      -- On the backend that the transaction began on it is concluded. A later backend is not
      -- touched, but then no transaction is in flight.
      by_cases hnumber : number = generation
      · subst hnumber
        rw [conclude, apply_onGeneration_present]
        exact .of_idle
          (.present number _
            (Connection.keeps_conclude Backend.listed_rewindable session outcome c hlisted))
          (conclude_isActive session outcome c)
      · have hidle : c.isActive = false := by
          rw [← Bool.not_eq_true]
          exact fun hactive => hnumber (hsame hactive)
        obtain ⟨around, hafter⟩ := apply_onGeneration_other (Ne.symm hnumber) c
          (Transaction.conclude session outcome)
        rw [conclude, hafter]
        exact .of_idle (.present number _ hlisted) hidle

/-- A transaction whose work is orderly is orderly, although neither its beginning nor its end is:
in between, it is in flight. -/
theorem orderly_transaction {work : Nat × Nat → Operation Value}
    (hwork : ∀ token, Orderly (work token)) :
    Orderly (Effect.bracket begin work conclude) := by
  intro s hs
  rw [Effect.bracket, apply_bind]
  cases hs with
  | absent generation around =>
      rw [begin, apply_bind, apply_onBackend_absent]
      exact .refl (.absent generation around)
  | present generation c hlisted =>
      have hsound : Sound (.present generation c) := .present generation c hlisted
      cases hc : c.backend.connected with
      | false =>
          rw [begin, apply_bind, apply_onBackend_disconnected generation hc]
          exact .refl hsound
      | true =>
          cases hactive : c.isActive with
          | true =>
              rw [apply_begin_of_active hc hactive]
              exact .refl hsound
          | false =>
              rw [apply_begin hc hactive]
              dsimp only
              rw [apply_bind, apply_outcome]
              have hbegun := hwork (generation, c.around.sessions.length)
                (.present generation (Transaction.begun c))
                (.present generation _ (hlisted.each _ _))
              exact follows_conclude hbegun.sound (fun h => (hbegun.inFlight h).2) _

/-- No program leaves a transaction in flight behind. -/
theorem sound_of_reachable {store : Store} {s : State}
    (h : (storeHost store).Reachable State.IsNew s) : Sound s ∧ s.isActive = false := by
  obtain ⟨first, program, ⟨around, rfl⟩, rfl⟩ := h
  have hprogram : Orderly (program.run (storeHost store)) := by
    refine Program.run_within (R := fun s t => Sound s → Follows s t) (fun _ => Follows.refl)
      follows_trans ?_ ?_ ?_ program
    · intro call
      cases call with
      | connect => exact Within.bind follows_trans (orderly_connect store) fun _ _ => Follows.refl
      | disconnect =>
          exact Within.bind follows_trans (orderly_disconnect store) fun _ _ => Follows.refl
      | _ => exact orderly_of_agrees fun _ _ hR => StoreCall.work_agrees hR store rfl
    · exact fun _ _ => orderly_outside _
    · exact fun _ => orderly_transaction
  have hfollows := hprogram (.absent 0 around) (.absent 0 around)
  refine ⟨hfollows.sound, ?_⟩
  rw [← Bool.not_eq_true]
  intro hactive
  cases (hfollows.inFlight hactive).1

end Docbase.Store
