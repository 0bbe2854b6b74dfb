import Docbase.Proofs.Upkeep

/-! # What updates write

An update writes the changes that it is given into a record, but for those to a few fixed keys, and
the moment of the update besides. So whatever programs do with a record, it has under the fixed
keys what it was created with, for as long as no other record is created in its place.
-/

namespace Docbase

open Effect Script Validated

/-! ## Runs in which calls are restricted -/

namespace Script.Program

variable {σ τ ω : Type}

/-- In the run of a program from a state, calls answer in ways that are allowed. Of transactions
that come to nothing, as seen from their ends, nothing is asked. -/
def Obeys (host : Host σ τ ω) (allowed : ω → Except Fault Reply → Prop) (undone : σ → σ → Prop) :
    Program ω → σ → Prop
  | finish _, _ => True
  | call op next, s =>
    let result := (host.call op).apply s
    allowed op result.1 ∧ (next result.1).Obeys host allowed undone result.2
  | session number request next, s =>
    let result := (host.callSession number request).apply s
    (next result.1).Obeys host allowed undone result.2
  | transaction work next, s =>
    let result := (Effect.bracket host.begin (fun token => (work (host.sessionOf token)).run host)
      host.conclude).apply s
    (undone s result.2 ∨ ∀ token t, host.begin.apply s = (.ok token, t) →
      (work (host.sessionOf token)).Obeys host allowed undone t) ∧
      (next result.1).Obeys host allowed undone result.2

end Script.Program

/-! ## Merging -/

namespace Keyed

variable {α : Type} {entries changes : Keyed α} {key : String}

theorem get?_merge_of_not_mem (h : key ∉ changes.keys) :
    (entries.merge changes).get? key = entries.get? key := by
  induction changes generalizing entries with
  | nil => rfl
  | cons change rest ih =>
      rw [keys, List.map_cons, List.mem_cons, not_or] at h
      exact (ih h.2).trans (get?_put_of_ne _ _ h.1)

/-- Of the changes, those count that are there, and for all other keys what was there before. -/
theorem get?_merge (h : changes.keys.Nodup) :
    (entries.merge changes).get? key = (changes.get? key).or (entries.get? key) := by
  induction changes generalizing entries with
  | nil => rfl
  | cons change rest ih =>
      obtain ⟨k, entry⟩ := change
      obtain ⟨hfirst, hrest⟩ := List.nodup_cons.mp h
      change ((entries.put k entry).merge rest).get? key = _
      by_cases hkey : key = k
      · subst hkey
        rw [get?_merge_of_not_mem hfirst, get?_put_self]
        simp [get?]
      · have hne : (key == k) = false := by simpa using hkey
        rw [ih hrest, get?_put_of_ne _ _ hkey]
        simp [get?, List.lookup_cons, hne]

theorem nodup_keys_put (h : entries.keys.Nodup) (key : String) (entry : α) :
    (entries.put key entry).keys.Nodup := by
  by_cases hkey : key ∈ entries.keys
  · rwa [keys_put_of_mem entry hkey]
  · rw [keys_put_of_not_mem entry hkey]
    exact List.nodup_append.mpr ⟨h, by simp, by grind⟩

end Keyed

/-- If a value is an object, no key is in it twice. -/
def Value.HasDistinctKeys : Value → Prop
  | object fields => (Keyed.keys fields).Nodup
  | _ => True

namespace Value

/-- Two values of which neither is a list or an object are equal in either order. -/
theorem eq_comm_of_immutable {a b : Value} (ha : a.isMutable = false) (hb : b.isMutable = false) :
    eq a b = eq b a := by
  cases a <;> cases b <;> first
    | rfl
    | exact samePlace_comm _ _
    | exact BEq.comm
    | exact congrArg₂ and BEq.comm BEq.comm
    | simp_all [eq, isMutable, samePlace, place?, isNull]

end Value

namespace ToldApart

variable {docs : List Document} {old doc : Document} (h : ToldApart docs)

include h

theorem isSome_get?_idKey (hdoc : doc ∈ docs) : (Keyed.get? doc idKey).isSome = true := by
  have htruthy := (h.fixed doc hdoc).1
  rw [Document.get] at htruthy
  cases hget : Keyed.get? doc idKey with
  | none => rw [hget] at htruthy; cases htruthy
  | some id => rfl

/-- No other record has an identifier equal to that of a record. -/
theorem eq_of_eq (hold : old ∈ docs) (hdoc : doc ∈ docs)
    (heq : Value.eq (doc.get idKey) (old.get idKey) = true) : doc = old := by
  refine List.Pairwise.forall_of_forall_of_flip
    (R := fun a b => Value.eq (a.get idKey) (b.get idKey) = true → a = b)
    (fun _ _ _ => rfl) ?_ ?_ hdoc hold heq
  · refine h.distinct.imp fun {a b} hapart hsame => ?_
    rw [hapart] at hsame
    cases hsame
  · refine h.distinct.imp_of_mem fun {a b} ha hb hapart hsame => ?_
    rw [Value.eq_comm_of_immutable (h.fixed b hb).2 (h.fixed a ha).2, hapart] at hsame
    cases hsame

end ToldApart

/-! ## What an update leaves in a record -/

namespace Store

/-- The key under which a resource keeps the moment of the last update, if it does. -/
def stampKey? (resource : Resource) : Option String :=
  (resource.fields.find? fun field => updatedFields.contains field.name).map Field.name

/-- Two documents have the same under all fixed keys. -/
def SameFixed (old new : Document) : Prop :=
  ∀ key ∈ fixedKeys, Keyed.get? new key = Keyed.get? old key

/-- What an update with some fields, at a moment, makes of a record. -/
structure Rewrites (resource : Resource) (now : String) (fields old new : Document) : Prop where
  fixed : SameFixed old new
  stamped : ∀ key, stampKey? resource = some key → Keyed.get? new key = some (.text now)
  given : ∀ key value, Keyed.get? fields key = some value → key ∉ fixedKeys →
    stampKey? resource ≠ some key → Keyed.get? new key = some value
  others : ∀ key, Keyed.get? fields key = none → key ∉ fixedKeys →
    stampKey? resource ≠ some key → Keyed.get? new key = Keyed.get? old key

theorem SameFixed.refl (doc : Document) : SameFixed doc doc :=
  fun _ _ => rfl

theorem SameFixed.trans {first second third : Document} (h : SameFixed first second)
    (h' : SameFixed second third) : SameFixed first third :=
  fun key hkey => (h' key hkey).trans (h key hkey)

/-- The fields that an update may write. -/
def unfixed (fields : Document) : Document :=
  Keyed.only (fun key => !fixedKeys.contains key) fields

/-- Changes with the moment of the update, if the resource keeps it. -/
def stampedAt (resource : Resource) (now : String) (asked : Document) : Document :=
  match stampKey? resource with
  | some key => Keyed.put asked key (.text now)
  | none => asked

theorem apply_stamp (resource : Resource) (asked : Document) (around : Surroundings) :
    ((stamp resource asked).apply around).1 =
      .ok (stampedAt resource (Clock.text around.now) asked) := by
  unfold stamp stampedAt stampKey?
  cases resource.fields.find? fun field => updatedFields.contains field.name <;> rfl

section

variable {resource : Resource} {key now : String} {asked : Document}

theorem stampKey?_mem (h : stampKey? resource = some key) : key ∈ updatedFields := by
  obtain ⟨field, hfield, rfl⟩ := Option.map_eq_some_iff.mp h
  simpa using List.find?_some hfield

theorem not_mem_fixedKeys_of_stampKey? (h : stampKey? resource = some key) :
    key ∉ fixedKeys := by
  have hapart : ∀ key ∈ updatedFields, key ∉ fixedKeys := by decide
  exact hapart key (stampKey?_mem h)

theorem get?_stampedAt :
    (stampedAt resource now asked).get? key =
      if stampKey? resource = some key then some (.text now) else asked.get? key := by
  unfold stampedAt
  cases hstamp : stampKey? resource with
  | none => simp
  | some stamped =>
      by_cases hkey : stamped = key
      · subst hkey
        simp [Keyed.get?_put_self]
      · simp [hkey, Keyed.get?_put_of_ne _ _ (Ne.symm hkey)]

theorem get?_unfixed_of_mem (h : key ∈ fixedKeys) (fields : Document) :
    (unfixed fields).get? key = none := by
  rw [Keyed.get?_eq_none_iff, unfixed, Keyed.mem_keys_only]
  simp [h]

theorem get?_unfixed (h : key ∉ fixedKeys) (fields : Document) :
    (unfixed fields).get? key = Keyed.get? fields key :=
  Keyed.get?_only fields (by simpa using h)

/-- What is written under a key: the moment, or else what was asked for, if that is allowed. -/
theorem get?_amended {fields old : Document} (hkeys : (Keyed.keys fields).Nodup)
    (hkey : key ≠ idKey) :
    Keyed.get? (Ledger.amended (stampedAt resource now (unfixed fields)) old) key =
      if stampKey? resource = some key then some (.text now)
      else ((unfixed fields).get? key).or (old.get? key) := by
  have hunfixed : (Keyed.keys (unfixed fields)).Nodup :=
    hkeys.sublist (List.filter_sublist.map _)
  have hstamped : (Keyed.keys (stampedAt resource now (unfixed fields))).Nodup := by
    unfold stampedAt
    split
    next => exact Keyed.nodup_keys_put hunfixed _ _
    next => exact hunfixed
  rw [Ledger.amended, Keyed.get?_put_of_ne _ _ hkey, Keyed.get?_merge hstamped, get?_stampedAt]
  split <;> rfl

end

section

variable {store : Store} {around : Surroundings} {name : String} {data : Value}
  {old changes : Document} (h : store.Amends around name data changes)

include h

theorem Amends.changes_eq : ∃ fields resource, data = .object fields ∧
    store.registry.get name = .ok resource ∧ checkEnums resource (unfixed fields) = .ok () ∧
    changes = stampedAt resource (Clock.text around.now) (unfixed fields) := by
  obtain ⟨resource, asked, hresource, hasked, hchecked, hstamp⟩ := h
  rw [apply_stamp] at hstamp
  cases data with
  | object fields =>
      cases hasked
      exact ⟨fields, resource, rfl, hresource, hchecked, (Except.ok.inj hstamp).symm⟩
  | _ => cases hasked

/-- Whatever is asked for, nothing under a fixed key is written. -/
theorem sameFixed_amended (hid : (old.get? idKey).isSome = true) :
    SameFixed old (Ledger.amended changes old) := by
  obtain ⟨fields, resource, -, -, -, rfl⟩ := h.changes_eq
  intro key hkey
  by_cases hidKey : key = idKey
  · subst hidKey
    obtain ⟨id, hget⟩ := Option.isSome_iff_exists.mp hid
    rw [Ledger.amended, Keyed.get?_put_self, Document.get, hget]
    rfl
  · have hnone :
        key ∉ Keyed.keys (stampedAt resource (Clock.text around.now) (unfixed fields)) := by
      have hstamp : stampKey? resource ≠ some key :=
        fun hstamp => not_mem_fixedKeys_of_stampKey? hstamp hkey
      rw [← Keyed.get?_eq_none_iff, get?_stampedAt, if_neg hstamp, get?_unfixed_of_mem hkey]
    rw [Ledger.amended, Keyed.get?_put_of_ne _ _ hidKey, Keyed.get?_merge_of_not_mem hnone]

theorem rewrites_of_amends (hdata : data.HasDistinctKeys)
    (hid : (old.get? idKey).isSome = true) : ∃ fields resource, data = .object fields ∧
      store.registry.get name = .ok resource ∧
      Rewrites resource (Clock.text around.now) fields old (Ledger.amended changes old) := by
  have hfixed := sameFixed_amended h hid
  obtain ⟨fields, resource, rfl, hresource, -, rfl⟩ := h.changes_eq
  have hget {key : String} (hkey : key ∉ fixedKeys) : Keyed.get? (Ledger.amended
      (stampedAt resource (Clock.text around.now) (unfixed fields)) old) key =
        if stampKey? resource = some key then some (.text (Clock.text around.now))
        else (Keyed.get? fields key).or (old.get? key) := by
    have hidKey : key ≠ idKey := by
      rintro rfl
      exact hkey List.mem_cons_self
    rw [get?_amended hdata hidKey, get?_unfixed hkey]
  refine ⟨fields, resource, rfl, hresource, hfixed, ?_, ?_, ?_⟩
  · intro key hstamp
    rw [hget (not_mem_fixedKeys_of_stampKey? hstamp), if_pos hstamp]
  · intro key value hvalue hkey hstamp
    rw [hget hkey, if_neg hstamp, hvalue]
    rfl
  · intro key hnone hkey hstamp
    rw [hget hkey, if_neg hstamp, hnone]
    rfl

end

/-! ## Runs -/

variable {store : Store} {s : State}

theorem begin_cases (h : s.Has Backend.Ready) :
    (∃ fault, begin.apply s = (.error fault, s)) ∨ ∃ generation c, s = .present generation c ∧
      begin.apply s = (.ok (generation, c.around.sessions.length),
        .present generation (Transaction.begun c)) := by
  cases h with
  | absent generation around =>
      exact .inl ⟨_, by rw [begin, apply_bind, apply_onBackend_absent]⟩
  | present generation c hc =>
      cases hactive : c.isActive with
      | true => exact .inl ⟨_, apply_begin_of_active hc.connected hactive⟩
      | false => exact .inr ⟨generation, c, rfl, apply_begin hc.connected hactive⟩

/-- A transaction has come to nothing for the records of a name: they are what they were, and no
snapshot is left. -/
def Undone (name : String) (s t : State) : Prop :=
  t.records name = s.records name ∧ t.Has Backend.Unguarded

/-- No record is created under a name with an identifier equal to some one. -/
def Spares (name : String) (id : Value) (call : StoreCall) (reply : Except Fault Reply) : Prop :=
  ∀ data doc, call = .create name data → reply = .ok (.record doc) →
    Value.eq (doc.get idKey) id = false

/-- Records of a name whose identifiers equal that of a record have what it has under fixed keys. -/
def Resembles (name : String) (old : Document) (other : String) (doc : Document) : Prop :=
  other = name → Value.eq (doc.get idKey) (old.get idKey) = true → SameFixed old doc

section

variable {name : String} {old : Document}

theorem sustains_resembles (hid : (old.get? idKey).isSome = true) {call : StoreCall}
    {reply : Except Fault Reply} (hcall : Spares name (old.get idKey) call reply) :
    Sustains store (Resembles name old) s call reply := by
  constructor
  · rintro other data built id rfl hreply - rfl heq
    have hapart := hcall data _ rfl hreply
    rw [Document.get_idKey_formatted, heq] at hapart
    cases hapart
  · rintro other id data changes doc rfl hamends hdoc rfl heq
    rw [Ledger.get_idKey_amended] at heq
    have hsame := hdoc rfl heq
    refine hsame.trans (sameFixed_amended hamends ?_)
    rw [hsame idKey List.mem_cons_self]
    exact hid

theorem upholds_of_unguarded {P : String → Document → Prop} {t : State}
    (h : t.Has Backend.Unguarded) (hlive : ∀ name, ∀ doc ∈ t.records name, P name doc) :
    t.Has (Backend.Upholds P) := by
  refine State.Has.upholds (h.imp fun b hb other saved hsaved => ?_) hlive
  unfold Backend.collection at hsaved
  cases hget : Keyed.get? b.collections other with
  | none => rw [hget] at hsaved; cases hsaved
  | some c =>
      rw [hget] at hsaved
      have hnone := hb.2 _ (Keyed.mem_of_get?_eq_some hget)
      rw [Option.getD_some, hnone] at hsaved
      cases hsaved

/-- As long as no record is created in the place of one, programs lead only to records that
resemble it. In a transaction, those resemble it too that would be gone back to. -/
theorem resembles_run (hid : (old.get? idKey).isSome = true) (program : Program StoreCall)
    (hpasses : (storeHost store).Passes State.IsNew s)
    (hobeys : program.Obeys (storeHost store) (Spares name (old.get idKey)) (Undone name) s) :
    ((∀ other, ∀ doc ∈ s.records other, Resembles name old other doc) →
      ∀ other, ∀ doc ∈ ((program.run (storeHost store)).apply s).2.records other,
        Resembles name old other doc) ∧
    (s.Has (Backend.Upholds (Resembles name old)) →
      ((program.run (storeHost store)).apply s).2.Has
        (Backend.Upholds (Resembles name old))) := by
  induction program generalizing s with
  | finish outcome => exact ⟨id, id⟩
  | call op next ih =>
      obtain ⟨hallowed, hnext⟩ := hobeys
      have hready := has_ready_of_passes hpasses
      have hcall : Sustains store (Resembles name old) s op ((op.run store).apply s).1 :=
        sustains_resembles hid hallowed
      obtain ⟨hlive, hupholds⟩ := ih _ (hpasses.call op) hnext
      rw [Program.run, apply_bind, apply_outcome]
      exact ⟨fun h => hlive (live_of_call store hready h op hcall),
        fun h => hupholds (upholds_of_call store hready h op hcall)⟩
  | session number request next ih =>
      obtain ⟨hlive, hupholds⟩ := ih _ (hpasses.session number request) hobeys
      rw [Program.run, apply_bind, apply_outcome]
      refine ⟨fun h => hlive (State.Has.live ?_), fun h => hupholds (keeps_has_outside _ s h)⟩
      have hready := has_ready_of_passes hpasses
      exact keeps_has_outside _ s ((hready.and_live h).imp fun _ => And.right)
  | transaction work next ihwork ihnext =>
      obtain ⟨hwork, hnext⟩ := hobeys
      set attempt := Effect.bracket (storeHost store).begin
        (fun token => (work ((storeHost store).sessionOf token)).run (storeHost store))
        (storeHost store).conclude with hattempt
      -- What the attempt leads to upholds the property even if nothing is known of a snapshot that
      -- there was before, unless the attempt has been refused.
      have hafter : ((attempt.apply s).2 = s) ∨
          ((∀ other, ∀ doc ∈ s.records other, Resembles name old other doc) →
            (attempt.apply s).2.Has (Backend.Upholds (Resembles name old))) := by
        rcases hwork with hundone | hwork
        · refine .inr fun h => upholds_of_unguarded hundone.2 fun other doc hdoc hother => ?_
          subst hother
          rw [hundone.1] at hdoc
          exact h other doc hdoc rfl
        · obtain ⟨fault, hbegin⟩ | ⟨generation, c, rfl, hbegin⟩ :=
            begin_cases (has_ready_of_passes hpasses)
          · refine .inl ?_
            rw [hattempt, Effect.bracket, apply_bind]
            simp only [storeHost, hbegin]
          · refine .inr fun h => ?_
            have hbegun : State.Has (Backend.Upholds (Resembles name old))
                (.present generation (Transaction.begun c)) := by
              refine .present _ _ (Backend.upholds_takeSnapshot fun other doc hdoc => ?_)
              refine h other doc ?_
              rw [records_present]
              exact hdoc
            have hpasses' := hpasses.begin
            simp only [storeHost, hbegin] at hpasses'
            have hworked := (ihwork _ hpasses' (hwork _ _ hbegin)).2 hbegun
            rw [hattempt, Effect.bracket, apply_bind]
            simp only [storeHost, hbegin]
            rw [apply_bind, apply_outcome]
            exact keeps_has_onGeneration (Connection.keeps_conclude
              (Backend.upholds_rewindable _) _ _) _ _ hworked
      have hpasses' : (storeHost store).Passes State.IsNew (attempt.apply s).2 :=
        hpasses.run (.transaction work fun _ => .finish (.ok .null))
      obtain ⟨hlive, hupholds⟩ := ihnext _ hpasses' hnext
      rw [Program.run, apply_bind, apply_outcome, ← hattempt]
      rcases hafter with hsame | hafter
      · rw [hsame] at hlive hupholds ⊢
        exact ⟨hlive, hupholds⟩
      · refine ⟨fun h => hlive ?_, fun h => hupholds (hafter ?_)⟩
        · exact ((hafter h).imp fun _ h => h.live).live
        · exact (h.imp fun _ h => h.live).live

end

theorem isConnected_of_ok {α : Type} {name : String} {next : Resource → Operation α} {value : α}
    (h : ((store.resource name >>= next).apply s).1 = .ok value) : s.isConnected = true := by
  rw [resource, apply_bind, apply_bind, apply_demand] at h
  by_contra hs
  rw [if_neg hs] at h
  cases h

/-- What it means that updates of the records that there are in a state write what they should, and
that programs leave alone what the records have under fixed keys. -/
structure KeepsFixedKeys (store : Store) (s : State) : Prop where
  /-- An update changes one record, in which it writes what it was given, but for fixed keys, and
  the moment that the clock shows. -/
  updated : ∀ (name id : String) (data : Value) (doc : Document) (t : State),
    data.HasDistinctKeys → (store.update name (.text id) data).apply s = (.ok doc, t) →
      ∃ fields resource before old new after, data = .object fields ∧
        store.registry.get name = .ok resource ∧
        StandsAlone (s.records name) id before old after ∧
        Rewrites resource (Clock.text s.around.now) fields old new ∧
        doc = Document.formatted new ∧
        t.records = Function.update s.records name (before ++ new :: after)
  /-- A record has what it had under fixed keys for as long as it is there. -/
  kept : ∀ (name : String) (old : Document) (program : Program StoreCall), old ∈ s.records name →
    program.Obeys (storeHost store) (Spares name (old.get idKey)) (Undone name) s →
      ∀ doc ∈ ((program.run (storeHost store)).apply s).2.records name,
        Value.eq (doc.get idKey) (old.get idKey) = true → SameFixed old doc

/-- Updates write what they are given, and whatever a program does, its records keep their
identifiers and the moments of their creation. -/
theorem keeps_fixed_keys (store : Store) (s : State)
    (hpasses : (storeHost store).Passes State.IsNew s) : KeepsFixedKeys store s := by
  constructor
  case updated =>
    intro name id data doc t hdata hupdate
    have hshows := shows_of_passes hpasses (isConnected_of_ok (congrArg Prod.fst hupdate))
    obtain ⟨before, old, after, changes, halone, hamends, rfl, hrecords⟩ :=
      amended_of_update store hshows name hupdate
    have hold : old ∈ s.records name := by simp [halone.docs_eq]
    obtain ⟨fields, resource, rfl, hresource, hrewrites⟩ :=
      rewrites_of_amends hamends hdata ((hshows.toldApart name).isSome_get?_idKey hold)
    exact ⟨fields, resource, before, old, _, after, rfl, hresource, halone, hrewrites, rfl,
      hrecords⟩
  case kept =>
    intro name old program hold hobeys doc hdoc heq
    have htold := toldApart_of_passes hpasses name
    refine (resembles_run (htold.isSome_get?_idKey hold) program hpasses hobeys).1 ?_ name doc hdoc
      rfl heq
    intro other found hfound hother heq
    subst hother
    rw [htold.eq_of_eq hold hfound heq]
    exact .refl old

/-- An update of a deal that asks for a fixed key to be written as well. -/
def retitling : Value :=
  .object [("_id", .text "x"), ("title", .text "B")]

theorem keeps_fixed_keys_dealsUnderWay :
    (storeHost deals).Passes State.IsNew dealsUnderWay ∧
      ((deals.update "Deal" (.text (Identifier.ofNat 1)) retitling).apply dealsUnderWay).1 =
        .ok [("title", .text "B"), ("_id", .text (Identifier.ofNat 1)),
          ("id", .text (Identifier.ofNat 1))] ∧
      KeepsFixedKeys deals dealsUnderWay := by
  have hpasses : (storeHost deals).Passes State.IsNew dealsUnderWay :=
    ((Host.Passes.of_reachable ⟨_, _, ⟨_, rfl⟩, rfl⟩).begin).call _
  exact ⟨hpasses, rfl, keeps_fixed_keys deals dealsUnderWay hpasses⟩

end Store

end Docbase
