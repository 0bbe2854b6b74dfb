import Docbase.Proofs.FixedKeys

/-! # Values out of a list

A field may list the values that it allows. Every record that is created and every change that an
update asks for is held against the lists, wherever the values have come from. So no record ever
has a value that is not on the list, whatever programs do, succeed or fail.
-/

namespace Docbase

open Effect Script

/-- Under the name of a field there is no value, null or a value on the list of the field. -/
def Field.Lists (field : Field) (doc : Document) : Prop :=
  Keyed.get? doc field.name = none ∨ Keyed.get? doc field.name = some .null ∨
    ∃ allowed ∈ field.enumValues, Keyed.get? doc field.name = some (.text allowed)

namespace Store

/-- All fields of a resource that list values have values on their lists. The key of the identifier
and those of the last update, which are written without a check, are left out. -/
def KeepsToLists (store : Store) (name : String) (doc : Document) : Prop :=
  ∀ resource, store.registry.get name = .ok resource → ∀ field ∈ resource.fields,
    field.kind = .enum → field.enumValues ≠ [] → field.name ≠ idKey →
      field.name ∉ updatedFields → field.Lists doc

theorem lists_of_enumFault?_eq_none {resource : String} {field : Field} {values : Document}
    (hkind : field.kind = .enum) (hvalues : field.enumValues ≠ [])
    (h : enumFault? resource field values = none) : field.Lists values := by
  cases hget : Keyed.get? values field.name with
  | none => exact .inl hget
  | some value =>
      refine .inr ?_
      have hempty : field.enumValues.isEmpty = false := by simpa using hvalues
      have hhas : Keyed.has values field.name = true := by simp [Keyed.has, hget]
      have hamong : value.isNull = false →
          value.isAmong (field.enumValues.map Value.text) = true := by
        simpa [enumFault?, hkind, hhas, hempty, Document.get, hget] using h
      cases hnull : value.isNull with
      | true =>
          obtain rfl : value = .null := by cases value <;> first | rfl | cases hnull
          exact .inl hget
      | false =>
          obtain ⟨allowed, hallowed, heq⟩ : ∃ allowed ∈ field.enumValues,
              Value.eq value (.text allowed) = true := by
            simpa [Value.isAmong] using hamong hnull
          exact .inr ⟨allowed, hallowed, by rw [hget, Value.eq_text_iff.mp heq]⟩

/-- What passes the check of a resource has values on the lists. -/
theorem lists_of_checkEnums {resource : Resource} {values : Document}
    (h : checkEnums resource values = .ok ()) {field : Field} (hfield : field ∈ resource.fields)
    (hkind : field.kind = .enum) (hvalues : field.enumValues ≠ []) : field.Lists values := by
  rw [checkEnums] at h
  split at h
  next => cases h
  next hnone =>
    exact lists_of_enumFault?_eq_none hkind hvalues
      (List.findSome?_eq_none_iff.mp hnone field hfield)

theorem keepsToLists_of_stores {store : Store} {around : Surroundings} {name : String}
    {data id : Value} {built : Document} (h : store.Stores around name data built) :
    store.KeepsToLists name (Keyed.put built idKey id) := by
  intro resource hresource field hfield hkind hvalues hid _
  obtain ⟨resource', hresource', -, hchecked⟩ := h
  rw [hresource] at hresource'
  cases hresource'
  have hlists := lists_of_checkEnums hchecked hfield hkind hvalues
  rwa [Field.Lists, ← Keyed.get?_put_of_ne built id hid] at hlists

theorem keepsToLists_of_amends {store : Store} {around : Surroundings} {name : String}
    {data : Value} {old changes : Document} (hdata : data.HasDistinctKeys)
    (h : store.Amends around name data changes) (hold : store.KeepsToLists name old) :
    store.KeepsToLists name (Ledger.amended changes old) := by
  intro resource hresource field hfield hkind hvalues hid hupdated
  obtain ⟨fields, resource', rfl, hresource', hchecked, rfl⟩ := h.changes_eq
  rw [hresource] at hresource'
  cases hresource'
  have hlists := lists_of_checkEnums hchecked hfield hkind hvalues
  have hstamp : stampKey? resource ≠ some field.name :=
    fun hstamp => hupdated (stampKey?_mem hstamp)
  rw [Field.Lists, get?_amended hdata hid, if_neg hstamp]
  -- What was asked for has been checked, and what was there before is on the lists.
  rcases hlists with hnone | hnull | ⟨allowed, hallowed, hget⟩
  · rw [hnone]
    exact hold resource hresource field hfield hkind hvalues hid hupdated
  · rw [hnull]
    exact .inr (.inl rfl)
  · rw [hget]
    exact .inr (.inr ⟨allowed, hallowed, rfl⟩)

end Store

/-- Whatever a call asks to be written into a record has no key twice. -/
def Script.StoreCall.HasDistinctKeys : StoreCall → Prop
  | .update _ _ data => data.HasDistinctKeys
  | _ => True

namespace Store

/-- In every state that programs pass through, also in the midst of a transaction, every record
has values on the lists of the fields that list values. -/
theorem keeps_to_lists (store : Store) (s : State)
    (hpasses : ((storeHost store).taking StoreCall.HasDistinctKeys).Passes State.IsNew s)
    (name : String) (doc : Document) (hdoc : doc ∈ s.records name) :
    store.KeepsToLists name doc := by
  have hupholds : s.Has (Backend.Upholds store.KeepsToLists) := by
    refine upholds_of_passes store (fun s call hcall => ?_) hpasses
    constructor
    · rintro name data built id - - hstores
      exact keepsToLists_of_stores hstores
    · rintro name id data changes old rfl hamends hold
      exact keepsToLists_of_amends hcall hamends hold
  exact (hupholds.imp fun _ h => h.live).live name doc hdoc

/-- A store of deals that go through stages. -/
def stages : Store where
  registry := .ofSchema
    { resources :=
        [{ name := "Deal"
           fields :=
            [{ name := "stage", kind := .enum, isRequired := true, default? := some (.text "open")
               annotations := { enumValues := some ["open", "won"] } }] }] }

/-- What makes a deal a won one. -/
def winning : Value :=
  .object [("stage", .text "won")]

/-- The store of deals in the midst of a transaction, after the creation of a deal, an update of it
and one that has been refused. -/
def wonDeal : State :=
  let call op s := ((((storeHost stages).call op).apply s).2 : State)
  call (.update "Deal" (.text (Identifier.ofNat 1)) (.object [("stage", .text "lost")]))
    (call (.update "Deal" (.text (Identifier.ofNat 1)) winning)
      (begin.apply (call (.create "Deal" (.object [])) (call .connect {}))).2)

theorem keeps_to_lists_wonDeal :
    ((storeHost stages).taking StoreCall.HasDistinctKeys).Passes State.IsNew wonDeal ∧
      wonDeal.records "Deal" = [[("stage", .text "won"), ("_id", .text (Identifier.ofNat 1))]] ∧
      stages.KeepsToLists "Deal" [("stage", .text "won"), ("_id", .text (Identifier.ofNat 1))] := by
  have hpasses : ((storeHost stages).taking StoreCall.HasDistinctKeys).Passes State.IsNew
      wonDeal := by
    have hdeal := ((Host.Passes.start ⟨{}, rfl⟩ : ((storeHost stages).taking
      StoreCall.HasDistinctKeys).Passes State.IsNew {}).call ⟨.connect, trivial⟩).call
        ⟨.create "Deal" (.object []), trivial⟩
    exact (hdeal.begin.call ⟨.update _ _ winning, List.pairwise_singleton _ _⟩).call
      ⟨.update _ _ (.object [("stage", .text "lost")]), List.pairwise_singleton _ _⟩
  exact ⟨hpasses, rfl, keeps_to_lists stages wonDeal hpasses "Deal" _ (.head _)⟩

end Store

end Docbase
