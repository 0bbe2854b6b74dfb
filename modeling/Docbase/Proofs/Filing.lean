import Docbase.Proofs.Collection
import Docbase.Proofs.Reachable

/-! # Documents are filed under their identifiers

On every store that programs pass through, each document of a collection is stored under the
identifier that it carries, which does not count as false and cannot change, and no two documents
are stored under equal ones. The documents that a snapshot keeps are stored in the same way.
-/

namespace Docbase

open Effect Script

namespace Keyed

variable {α : Type} {entries : Keyed α} {key : String} {entry : α}

theorem mem_put {other : String × α} (h : other ∈ entries.put key entry) :
    other ∈ entries ∨ other = (key, entry) := by
  induction entries with
  | nil => simpa [put] using h
  | cons first rest ih =>
      rw [put] at h
      split at h
      · rcases List.mem_cons.mp h with rfl | hrest
        · exact .inr (by simp_all)
        · exact .inl (List.mem_cons_of_mem _ hrest)
      · rcases List.mem_cons.mp h with rfl | hrest
        · exact .inl List.mem_cons_self
        · exact (ih hrest).imp_left (List.mem_cons_of_mem _)

theorem mem_of_get?_eq_some (h : entries.get? key = some entry) : (key, entry) ∈ entries := by
  obtain ⟨before, after, rfl, -⟩ := List.lookup_eq_some_iff.mp h
  simp

theorem mem_merge {changes : Keyed α} {other : String × α}
    (h : other ∈ entries.merge changes) : other ∈ entries ∨ other ∈ changes := by
  induction changes generalizing entries with
  | nil => exact .inl h
  | cons change rest ih =>
      rcases ih h with hput | hrest
      · rcases mem_put hput with hold | rfl
        · exact .inl hold
        · exact .inr List.mem_cons_self
      · exact .inr (List.mem_cons_of_mem _ hrest)

theorem mem_of_get?_ofList {listed : List (String × α)}
    (h : (ofList listed).get? key = some entry) : (key, entry) ∈ listed :=
  (mem_merge (mem_of_get?_eq_some h)).resolve_left List.not_mem_nil

end Keyed

namespace Collection

/-- Documents are stored under the identifiers that they carry, which count as true, cannot change
and are not equal to each other. -/
structure Filed (stored : List Stored) : Prop extends Indexed stored where
  fixed : ∀ found ∈ stored, found.1.isTruthy = true ∧ found.1.isMutable = false

theorem Filed.nil : Filed [] :=
  ⟨Indexed.nil, by simp⟩

theorem Filed.revised {stored after : List Stored} (h : Filed stored)
    (hrevision : Revision stored after) : Filed after := by
  cases hrevision with
  | same => exact h
  | inserted hid hinsert =>
      refine ⟨h.toIndexed.insert hinsert, ?_⟩
      obtain ⟨hfixed, -, rfl⟩ := insert_eq_ok.mp hinsert
      intro found hfound
      rcases List.mem_append.mp hfound with hold | hnew
      · exact h.fixed found hold
      · rw [List.mem_singleton] at hnew
        subst hnew
        exact ⟨hid, hfixed⟩
  | changed =>
      refine ⟨h.toIndexed.replaceFirst _ _, ?_⟩
      intro found hfound
      rw [replaceFirst_eq_modify] at hfound
      rcases mem_modify hfound with hold | ⟨old, hold, rfl⟩
      · exact h.fixed found hold
      · exact h.fixed old hold
  | removed =>
      refine ⟨h.toIndexed.removeFirst _, ?_⟩
      intro found hfound
      rw [removeFirst_eq_eraseP] at hfound
      exact h.fixed found (List.mem_of_mem_eraseP hfound)

/-- The documents of a collection are filed, and so are those that it would go back to. -/
structure InOrder (c : Collection) : Prop where
  stored : Filed c.stored
  snapshot : ∀ saved ∈ c.snapshot, Filed saved

end Collection

namespace Backend

/-- All collections are in order. -/
def InOrder (b : Backend) : Prop :=
  ∀ entry ∈ b.collections, entry.2.InOrder

variable {b : Backend}

theorem InOrder.collection (h : b.InOrder) (name : String) : (b.collection name).InOrder := by
  unfold Backend.collection
  cases hget : Keyed.get? b.collections name with
  | none => exact ⟨Collection.Filed.nil, by simp⟩
  | some c => exact h _ (Keyed.mem_of_get?_eq_some hget)

theorem InOrder.replace (h : b.InOrder) (name : String) {c : Collection} (hc : c.InOrder) :
    (b.replace name c).InOrder := by
  intro entry hentry
  rcases Keyed.mem_put hentry with hold | rfl
  · exact h entry hold
  · exact hc

theorem inOrder_rewindable : Rewindable InOrder where
  taken := by
    intro b h entry hentry
    obtain ⟨old, hold, rfl⟩ := List.mem_map.mp hentry
    refine ⟨(h old hold).stored, ?_⟩
    rintro _ ⟨⟩
    exact (h old hold).stored
  restored := by
    intro b h
    unfold Backend.restoreSnapshot
    split
    next => exact h
    next names _ =>
      intro entry hentry
      obtain ⟨old, hold, rfl⟩ := List.mem_map.mp hentry
      have hkept := h old (List.mem_of_mem_filter hold)
      dsimp only
      unfold Collection.restoreSnapshot
      split
      next saved hsaved => exact ⟨hkept.snapshot saved hsaved, by simp⟩
      next => exact hkept
  discarded := by
    intro b h entry hentry
    obtain ⟨old, hold, rfl⟩ := List.mem_map.mp hentry
    exact ⟨(h old hold).stored, by simp [Collection.discardSnapshot]⟩

theorem restoreSnapshot_connected (b : Backend) :
    b.restoreSnapshot.connected = b.connected := by
  unfold Backend.restoreSnapshot
  split <;> rfl

/-- A backend is connected, and its collections are in order. -/
structure Ready (b : Backend) : Prop where
  connected : b.connected = true
  inOrder : b.InOrder

theorem ready_rewindable : Rewindable Ready where
  taken := fun b h => ⟨h.connected, inOrder_rewindable.taken b h.inOrder⟩
  restored := fun b h =>
    ⟨(restoreSnapshot_connected b).trans h.connected, inOrder_rewindable.restored b h.inOrder⟩
  discarded := fun b h => ⟨h.connected, inOrder_rewindable.discarded b h.inOrder⟩

theorem ready_durable : Connection.Durable fun c => c.backend.Ready where
  rewritten := by
    intro c h name stored hrevision
    have hold := h.inOrder.collection name
    exact ⟨h.connected, h.inOrder.replace name ⟨hold.stored.revised hrevision, hold.snapshot⟩⟩
  numbered := fun _ h _ => h
  ticked := fun _ h _ => h
  noted := fun _ h _ => h

end Backend

namespace Store

/-- There is no backend, or there is one with a property. -/
inductive State.Has (I : Backend → Prop) : State → Prop
  | absent (generation : Nat) (around : Surroundings) : Has I (.absent generation around)
  | present (generation : Nat) (c : Connection) (h : I c.backend) : Has I (.present generation c)

section

variable {I : Backend → Prop} {α : Type}

theorem keeps_has_of_agrees (hI : Connection.Durable fun c => I c.backend) {effect : Operation α}
    (h : ∀ generation R, Connection.Tolerant R →
      Agrees (Lifted generation True R) effect effect) :
    Keeps (State.Has I) effect := by
  intro s hs
  cases hs with
  | absent generation around =>
      obtain ⟨around', hafter⟩ := after_absent_of_agrees h generation around
      rw [hafter]
      exact .absent generation around'
  | present generation c hc =>
      obtain ⟨around, hafter⟩ | ⟨d, hd, hafter⟩ := after_present_of_agrees h hI generation hc
      · rw [hafter]
        exact .absent generation around
      · rw [hafter]
        exact .present generation d hd

theorem keeps_has_outside (effect : Effect Surroundings α) :
    Keeps (State.Has I) (outside effect) := by
  intro s hs
  cases hs with
  | absent generation around => exact .absent generation _
  | present generation c hc =>
      rw [apply_outside_present]
      exact .present generation _ hc

theorem keeps_has_onGeneration {effect : Effect Connection α}
    (h : Keeps (fun c => I c.backend) effect) (number : Nat) :
    Keeps (State.Has I) (onGeneration number effect) := by
  intro s hs
  cases hs with
  | absent generation around => exact .absent generation _
  | present generation c hc =>
      by_cases hnumber : number = generation
      · subst hnumber
        rw [apply_onGeneration_present]
        exact .present number _ (h c hc)
      · obtain ⟨around, hafter⟩ := apply_onGeneration_other hnumber c effect
        rw [hafter]
        exact .present generation _ hc

theorem keeps_has_onBackend {effect : Effect Connection α}
    (h : Keeps (fun c => I c.backend) effect) : Keeps (State.Has I) (onBackend effect) := by
  have hdemand : Keeps (State.Has I) demand := by
    intro s hs
    rw [apply_demand]
    exact hs
  exact hdemand.bind fun _ => Keeps.get.bind fun s => keeps_has_onGeneration h s.generation

/-- Connecting keeps what holds of a new backend and of all that it becomes as collections are
created. -/
theorem keeps_has_connect
    (hconnected : ∀ database around,
      I (Connection.connect.apply { backend := { database }, around }).2.backend)
    (hopened : ∀ name, Keeps (fun c => I c.backend) (Connection.createCollection name))
    (store : Store) : Keeps (State.Has I) store.connect := by
  have hopening (database : String) : Keeps (State.Has I) (store.opening database) := by
    intro s _
    obtain ⟨c, hafter, hc⟩ := apply_opening (I := fun c => I c.backend) hconnected
      hopened (fun _ => Connection.keeps_outside _) store database s
    rw [hafter]
    exact .present _ c hc
  refine Keeps.get.bind fun s => ?_
  dsimp only
  split
  · split
    · exact (keeps_has_outside _).bind fun _ => hopening _
    · exact hopening _
  · exact Keeps.pure ()

theorem keeps_has_disconnect (store : Store) : Keeps (State.Has I) store.disconnect := by
  intro s hs
  cases hs with
  | absent generation around => exact .absent generation around
  | present generation c hc =>
      rw [disconnect_present]
      exact .absent generation _

end

/-! ## Stores that programs pass through -/

theorem ready_opened (name : String) :
    Keeps (fun c => c.backend.Ready) (Connection.createCollection name) := by
  refine Connection.keeps_demand.bind fun _ => Connection.keeps_change fun c h => ?_
  rw [Backend.create_eq]
  exact ⟨h.connected, h.inOrder.replace name (h.inOrder.collection name)⟩

theorem ready_connected (database : String) (around : Surroundings) :
    (Connection.connect.apply { backend := { database }, around }).2.backend.Ready :=
  ⟨rfl, fun _ hentry => absurd hentry List.not_mem_nil⟩

theorem keeps_ready_connect (store : Store) : Keeps (State.Has Backend.Ready) store.connect :=
  keeps_has_connect ready_connected ready_opened store

/-- Of every store that programs pass through, the backend is connected and its collections are in
order, if there is a backend. -/
theorem has_ready_of_passes {store : Store} {s : State}
    (h : (storeHost store).Passes State.IsNew s) : s.Has Backend.Ready := by
  refine h.holds ?_ ?_ ?_ ?_ ?_
  · rintro _ ⟨around, rfl⟩
    exact .absent 0 around
  · intro call
    cases call with
    | connect => exact (keeps_ready_connect store).bind fun _ => Keeps.pure _
    | disconnect => exact (keeps_has_disconnect store).bind fun _ => Keeps.pure _
    | _ =>
        exact keeps_has_of_agrees Backend.ready_durable fun _ _ hR =>
          StoreCall.work_agrees hR store rfl
  · exact fun _ _ => keeps_has_outside _
  · exact (keeps_has_onBackend (Connection.keeps_begin Backend.ready_rewindable)).bind fun _ =>
      Keeps.get.bind fun _ => Keeps.pure _
  · exact fun _ outcome =>
      keeps_has_onGeneration (Connection.keeps_conclude Backend.ready_rewindable _ outcome) _

end Store

end Docbase
