import Docbase.Proofs.Counting
import Docbase.Proofs.Decomposition

/-! # Filters and what is shown

A filter looks at records as they are stored, and a caller sees them with their identifier shown
under a second key. Whether a filter holds depends only on the fields that it names, so that the two
forms of a record are told apart only by filters that name that key. All others select from what is
found what they would find.
-/

namespace Docbase

open Effect Script

namespace Clause

mutual

/-- The names of the fields that a clause asks for. -/
def names : Clause → List String
  | field name _ => [name]
  | joined _ filters => namesOfEach filters

/-- The names of the fields that the clauses of a list ask for. -/
def namesOf : List Clause → List String
  | [] => []
  | clause :: rest => names clause ++ namesOf rest

/-- The names of the fields that the filters of a list ask for. -/
def namesOfEach : List (List Clause) → List String
  | [] => []
  | filter :: rest => namesOf filter ++ namesOfEach rest

end

variable {doc other : Document}

mutual

/-- Whether a clause holds depends on the fields that it names only. -/
theorem holds_congr : ∀ clause : Clause, (∀ name ∈ clause.names, doc.get name = other.get name) →
    clause.holds doc = clause.holds other
  | field name conditions, h => by
      rw [holds, holds, h name (by simp [names])]
  | joined .and filters, h => by
      rw [holds, holds, everyHolds_congr filters (by rwa [names] at h)]
  | joined .or filters, h => by
      rw [holds, holds, someHolds_congr filters (by rwa [names] at h)]

theorem allHold_congr : ∀ clauses : List Clause,
    (∀ name ∈ namesOf clauses, doc.get name = other.get name) →
      allHold doc clauses = allHold other clauses
  | [], _ => by rw [allHold, allHold]
  | clause :: rest, h => by
      simp only [namesOf, List.mem_append] at h
      rw [allHold, allHold, holds_congr clause fun name hname => h name (.inl hname),
        allHold_congr rest fun name hname => h name (.inr hname)]

theorem everyHolds_congr : ∀ filters : List (List Clause),
    (∀ name ∈ namesOfEach filters, doc.get name = other.get name) →
      everyHolds doc filters = everyHolds other filters
  | [], _ => by rw [everyHolds, everyHolds]
  | filter :: rest, h => by
      simp only [namesOfEach, List.mem_append] at h
      rw [everyHolds, everyHolds, allHold_congr filter fun name hname => h name (.inl hname),
        everyHolds_congr rest fun name hname => h name (.inr hname)]

theorem someHolds_congr : ∀ filters : List (List Clause),
    (∀ name ∈ namesOfEach filters, doc.get name = other.get name) →
      someHolds doc filters = someHolds other filters
  | [], _ => by rw [someHolds, someHolds]
  | filter :: rest, h => by
      simp only [namesOfEach, List.mem_append] at h
      rw [someHolds, someHolds, allHold_congr filter fun name hname => h name (.inl hname),
        someHolds_congr rest fun name hname => h name (.inr hname)]

end

end Clause

namespace Filter

/-- The names of the fields that a filter asks for, at whatever depth. -/
def names (filter : Filter) : List String :=
  Clause.namesOf filter

/-- A filter that does not ask for the key under which identifiers are shown holds of a document as
it is shown if it holds of it as it is stored. -/
theorem holds_formatted {filter : Filter} (h : publicIdKey ∉ filter.names) (doc : Document) :
    filter.holds doc.formatted = filter.holds doc := by
  refine Clause.allHold_congr filter fun name hname => doc.get_formatted_of_ne ?_
  rintro rfl
  exact h hname

end Filter

/-- Selecting before a change gives what selecting after it gives, if and only if no member is
selected at one time but not at the other. -/
theorem map_filter_eq_filter_map_iff {α β : Type} {f : α → β} {p : α → Bool} {q : β → Bool}
    {items : List α} :
    (items.filter p).map f = (items.map f).filter q ↔ ∀ a ∈ items, q (f a) = p a := by
  rw [List.filter_map]
  constructor
  · intro h
    have hselected : ∀ a ∈ items, p a = true → q (f a) = true := by
      intro a ha hp
      have hmem : f a ∈ (items.filter p).map f := List.mem_map_of_mem (List.mem_filter.mpr ⟨ha, hp⟩)
      rw [h] at hmem
      obtain ⟨b, hb, hfb⟩ := List.mem_map.mp hmem
      rw [← hfb]
      exact (List.mem_filter.mp hb).2
    -- What is selected before is among what is selected after, and there are as many of both.
    have hnested : items.filter p = (items.filter (q ∘ f)).filter p := by
      rw [List.filter_filter]
      refine List.filter_congr fun a ha => ?_
      cases hp : p a with
      | true => simp [hselected a ha hp]
      | false => simp
    have hsame : items.filter p = items.filter (q ∘ f) := by
      refine List.Sublist.eq_of_length ?_ (by simpa using congrArg List.length h)
      rw [hnested]
      exact List.filter_sublist
    intro a ha
    rw [Bool.eq_iff_iff]
    refine ⟨fun hq => ?_, hselected a ha⟩
    have hmem : a ∈ items.filter (q ∘ f) := List.mem_filter.mpr ⟨ha, hq⟩
    rw [← hsame] at hmem
    exact (List.mem_filter.mp hmem).2
  · intro h
    exact congrArg (List.map f) (List.filter_congr fun a ha => (h a ha).symm)

namespace Store

/-- What it means that a filter, once it is read, finds what it selects among all records: it finds
those that it holds of as they are stored. These are the ones that it holds of as they are shown if
it never tells the two forms apart, which it may do only if it asks for the key under which
identifiers are shown. -/
structure SelectsShown (store : Store) (s : State) (resource : String) (filter : Value)
    (read : Filter) (shown found : List Document) : Prop where
  shown_eq : shown = (s.records resource).map Document.formatted
  found_eq : found = ((s.records resource).filter read.holds).map Document.formatted
  listed : ((store.findAll resource {}).apply s).1 = .ok shown
  searched : ((store.findAll resource { filter }).apply s).1 = .ok found
  selected_iff : found = shown.filter read.holds ↔
    ∀ doc ∈ s.records resource, read.holds doc.formatted = read.holds doc
  selected : publicIdKey ∉ read.names → found = shown.filter read.holds

/-- A filter that can be read finds records as they are stored, not always as they are shown. -/
theorem selects_shown (store : Store) (s : State)
    (hpasses : (storeHost store).Passes State.IsNew s) (hconnected : s.isConnected = true)
    (resource : String) (hresource : store.registry.has resource = true) (filter : Value)
    (read : Filter) (hread : Filter.read filter = .ok read) :
    ∃ shown found, SelectsShown store s resource filter read shown found := by
  have h := shows_of_passes hpasses hconnected
  have hlisted := (findAll_yields store hresource .null s h).1
  have hsearched := (findAll_yields store hresource filter s h).1
  rw [Filter.read, Except.map] at hlisted
  rw [hread] at hsearched
  have hiff : ((s.records resource).filter read.holds).map Document.formatted =
      ((s.records resource).map Document.formatted).filter read.holds ↔
        ∀ doc ∈ s.records resource, read.holds doc.formatted = read.holds doc :=
    map_filter_eq_filter_map_iff
  refine ⟨_, _, rfl, rfl, ?_, hsearched, hiff, fun hnames => hiff.mpr fun doc _ => ?_⟩
  · rw [hlisted, List.filter_eq_self.mpr fun doc _ => by rw [Filter.holds, Clause.allHold]]
  · exact Filter.holds_formatted hnames doc

/-- A filter of the tasks that have an owner or a certain identifier. -/
def owned : Value :=
  .object [("$or", .list
    [.object [("ownerId", .object [("$not", .object [("$eq", .null)])])],
      .object [("_id", .text (Identifier.ofNat 9))]])]

/-- The same filter after it has been read. -/
def ownedRead : Filter :=
  [.joined .or
    [[.field "ownerId" [.except [.equal .null]]],
      [.field "_id" [.equal (.text (Identifier.ofNat 9))]]]]

theorem selects_shown_busyCrew :
    (storeHost crew).Passes State.IsNew busyCrew ∧ busyCrew.isConnected = true ∧
      crew.registry.has "Task" = true ∧ Filter.read owned = .ok ownedRead ∧
      publicIdKey ∉ ownedRead.names ∧
      ∃ shown found, SelectsShown crew busyCrew "Task" owned ownedRead shown found := by
  have hpasses : (storeHost crew).Passes State.IsNew busyCrew :=
    .of_reachable busyCrew_reachable
  have hread : Filter.read owned = .ok ownedRead := rfl
  exact ⟨hpasses, rfl, rfl, hread, by decide,
    selects_shown crew busyCrew hpasses rfl "Task" rfl owned ownedRead hread⟩

/-- A user is shown with an identifier, but not found by a filter that asks for it under the key
under which it is shown. -/
theorem shown_but_not_found :
    let byShownId : Value := .object [("id", .text (Identifier.ofNat 1))]
    let read : Filter := [.field "id" [.equal (.text (Identifier.ofNat 1))]]
    (storeHost crew).Reachable State.IsNew busyCrew ∧ busyCrew.isConnected = true ∧
      crew.registry.has "User" = true ∧ Filter.read byShownId = .ok read ∧
      ((crew.findAll "User" {}).apply busyCrew).1 = .ok [(bare 1).formatted] ∧
      read.holds (bare 1).formatted = true ∧
      ((crew.findAll "User" { filter := byShownId }).apply busyCrew).1 = .ok [] :=
  ⟨busyCrew_reachable, rfl, rfl, rfl, rfl, rfl, rfl⟩

end Store

end Docbase
