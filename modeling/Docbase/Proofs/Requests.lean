import Docbase.Proofs.Arrangement
import Docbase.Proofs.Converse
import Docbase.Proofs.Embedding

/-! # What requests find

A request is answered with the records that its filter selects, put in order and cut down to a
page, and only then dressed with related records and stripped of the fields not asked for.
-/

namespace Docbase

open Effect Script Validated

/-- Making something of all items, and then something of all that was made, comes to making both of
each item, if nothing fails. -/
theorem mapM_bind_eq_ok {α β γ : Type} {f : α → Except Fault β} {g : β → Except Fault γ}
    {items : List α} {results : List γ} :
    (items.mapM fun item => f item >>= g) = .ok results ↔
      ∃ made, items.mapM f = .ok made ∧ made.mapM g = .ok results := by
  induction items generalizing results with
  | nil => simp [pure, Except.pure]
  | cons item rest ih =>
      simp only [List.mapM_cons, bind_eq_ok, pure, Except.pure, Except.ok.injEq, ih]
      constructor
      · rintro ⟨result, ⟨first, hfirst, hresult⟩, others, ⟨made, hmade, hothers⟩, rfl⟩
        refine ⟨first :: made, ⟨first, hfirst, made, hmade, rfl⟩, ?_⟩
        simp [List.mapM_cons, hresult, hothers, bind, Except.bind, pure, Except.pure]
      · rintro ⟨_, ⟨first, hfirst, made, hmade, rfl⟩, hresults⟩
        rw [List.mapM_cons] at hresults
        obtain ⟨result, hresult, hresults⟩ := bind_eq_ok.mp hresults
        obtain ⟨others, hothers, hresults⟩ := bind_eq_ok.mp hresults
        cases hresults
        exact ⟨result, ⟨first, hfirst, hresult⟩, others, ⟨made, hmade, hothers⟩, rfl⟩

theorem Connection.search_yields {records : String → List Document} (name : String)
    (search : Search) :
    Yields (Shows records) (find name search)
      (paginate (sortDocuments ((records name).filter search.filter.holds) search.order)
        search.skip search.limit) := by
  intro c h
  rw [apply_find h.ready.connected]
  refine ⟨?_, h.touched name⟩
  rw [Collection.find, (h.indexed name).documents_matching, h.documents]

theorem sortDocuments_perm (docs : List Document) (fields : List SortField) :
    (sortDocuments docs fields).Perm docs := by
  unfold sortDocuments
  split
  next => rfl
  next => exact stableSort_perm _ _

/-- Documents are sorted stably wherever comparing them by the fields orders them. -/
theorem arranges_sortDocuments {docs : List Document} {fields : List SortField}
    (h : WeaklyOrders (fun a b => decide (compareDocuments fields a b < 0)) docs) :
    Arranges (fun a b => decide (compareDocuments fields a b < 0)) docs
      (sortDocuments docs fields) := by
  unfold sortDocuments
  split
  next hnone =>
    rw [List.isEmpty_iff] at hnone
    exact .of_forall_not_less (by simp [hnone, compareDocuments]) docs
  next => exact arranges_stableSort h

namespace Store

variable (store : Store) (records : String → List Document) (name : String)

/-- A document with what includes embed in it. -/
def populatedWith (includes : List Include) (doc : Document) : Except Fault Document :=
  includes.foldlM (fun doc spec => Relations.embedded (Relations.loaded store.registry records)
    spec.select spec.segments name doc) doc

/-- The fields of some names of a document, or all of it if there are no names. -/
def keptOf (names : Option (List Value)) (doc : Document) : Except Fault Document :=
  match names with
  | some names => doc.project names
  | none => .ok doc

theorem mapM_keptOf_none (docs : List Document) : docs.mapM (keptOf none) = .ok docs :=
  (mapM_eq_ok (g := id) fun _ _ => rfl).trans (congrArg Except.ok (List.map_id docs))

/-- What is given for a document: what is kept of the document with what includes embed in it. -/
def dressed (includes : List Include) (names : Option (List Value)) (doc : Document) :
    Except Fault Document :=
  store.populatedWith records name includes doc.formatted >>= keptOf names

/-- With no includes and no selection, a document is given as it is shown. -/
theorem mapM_dressed_nil (docs : List Document) :
    docs.mapM (store.dressed records name [] none) = .ok (docs.map Document.formatted) :=
  mapM_eq_ok fun _ _ => rfl

namespace Request

/-- The names of the fields to keep, if only some are to be kept. -/
def names (request : Request) (includes : List Include) : Except Fault (Option (List Value)) :=
  if request.select.isTruthy then some <$> selection request.select includes else .ok none

/-- What a request comes to among given records. -/
def answer (request : Request) : Except Fault (List Document) := do
  let _ ← store.registry.get name
  let filter ← Filter.read request.filter
  let order ← SortField.readAll request.order
  let docs ← paginate (sortDocuments ((records name).filter filter.holds) order) request.offset
    request.limit
  let includes ← Include.readAll request.includes
  let docs ← (docs.map Document.formatted).mapM (store.populatedWith records name includes)
  match ← request.names includes with
  | some names => docs.mapM fun doc => doc.project names
  | none => return docs

/-- What a request of a store asks for, all of it read and none refused. -/
structure Asks (request : Request) (filter : Filter) (order : List SortField)
    (includes : List Include) (names : Option (List Value)) : Prop where
  resource : store.registry.has name = true
  filter_eq : Filter.read request.filter = .ok filter
  order_eq : SortField.readAll request.order = .ok order
  includes_eq : Include.readAll request.includes = .ok includes
  names_eq : request.names includes = .ok names

variable {store} {records} {name} {request : Request} {filter : Filter} {order : List SortField}
  {includes : List Include} {names : Option (List Value)}

theorem asks_of_answer {found : List Document}
    (h : request.answer store records name = .ok found) :
    ∃ filter order includes names, request.Asks store name filter order includes names := by
  obtain ⟨resource, hresource, h⟩ := bind_eq_ok.mp h
  obtain ⟨filter, hfilter, h⟩ := bind_eq_ok.mp h
  obtain ⟨order, horder, h⟩ := bind_eq_ok.mp h
  obtain ⟨docs, -, h⟩ := bind_eq_ok.mp h
  obtain ⟨includes, hincludes, h⟩ := bind_eq_ok.mp h
  obtain ⟨populated, -, h⟩ := bind_eq_ok.mp h
  obtain ⟨names, hnames, -⟩ := bind_eq_ok.mp h
  exact ⟨filter, order, includes, names, Registry.has_iff_get.mpr ⟨resource, hresource⟩, hfilter,
    horder, hincludes, hnames⟩

section

variable (h : request.Asks store name filter order includes names)

include h

theorem answer_eq : request.answer store records name = (do
    let docs ← paginate (sortDocuments ((records name).filter filter.holds) order) request.offset
      request.limit
    let docs ← (docs.map Document.formatted).mapM (store.populatedWith records name includes)
    docs.mapM (keptOf names)) := by
  obtain ⟨found, hget⟩ := Registry.has_iff_get.mp h.resource
  rw [answer, hget, h.filter_eq, h.order_eq, h.includes_eq]
  simp only [bind, Except.bind, h.names_eq]
  cases names with
  | some names => rfl
  | none => simp only [mapM_keptOf_none, pure, Except.pure]

theorem answer_eq_ok_iff {found : List Document} :
    request.answer store records name = .ok found ↔
      ∃ docs, paginate (sortDocuments ((records name).filter filter.holds) order) request.offset
        request.limit = .ok docs ∧ docs.mapM (store.dressed records name includes names) =
          .ok found := by
  rw [answer_eq h, bind_eq_ok]
  refine exists_congr fun docs => and_congr_right fun _ => ?_
  rw [bind_eq_ok, List.mapM_map]
  exact (mapM_bind_eq_ok (f := fun doc =>
    store.populatedWith records name includes (Document.formatted doc))).symm

theorem Asks.turned (offset limit : Value) :
    { request with offset, limit }.Asks store name filter order includes names :=
  ⟨h.resource, h.filter_eq, h.order_eq, h.includes_eq, h.names_eq⟩

end

/-- With nothing but a filter, all records are asked for that it selects. -/
theorem answer_of_filter (hresource : store.registry.has name = true) (filter : Value) :
    ({ filter } : Request).answer store records name = (Filter.read filter).map fun filter =>
      ((records name).filter filter.holds).map Document.formatted := by
  cases hfilter : Filter.read filter with
  | error fault =>
      obtain ⟨found, hget⟩ := Registry.has_iff_get.mp hresource
      rw [answer, hget, hfilter]
      rfl
  | ok filter =>
      exact (answer_eq_ok_iff ⟨hresource, hfilter, rfl, rfl, rfl⟩).mpr
        ⟨_, rfl, mapM_dressed_nil store records name _⟩

end Request

theorem answer_yields (request : Request) :
    Yields (State.Shows records) (store.findAll name request)
      (request.answer store records name) := by
  refine (resource_yields store name).bind fun _ _ => (Yields.ofExcept _).bind fun filter _ =>
    (Yields.ofExcept _).bind fun order _ => ?_
  refine (onBackend_yields (Connection.search_yields name _)).bind fun docs _ =>
    (Yields.ofExcept _).bind fun includes _ => ?_
  refine (Yields.mapM (fun doc => onBackend_yields
    (Relations.populate_yields store.registry name doc includes)) _).bind fun populated _ => ?_
  unfold Request.names
  split
  next =>
    refine ((Yields.ofExcept _).bind fun names _ => Yields.ofExcept _).of_eq ?_
    cases selection request.select includes <;> rfl
  next => exact Yields.pure _

end Store

end Docbase
