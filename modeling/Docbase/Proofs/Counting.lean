import Docbase.Proofs.Pipelines
import Docbase.Proofs.Requests

/-! # Three ways of counting

Records that a filter selects can be counted, found and then counted, or taken through a pipeline
that keeps them and gathers them into one group. Looking an identifier up, going through all
records and going through a copy of them select the same records, so that the three numbers agree,
and a filter that cannot be read is refused by all three.
-/

namespace Docbase

open Effect Script

theorem Collection.Indexed.count_eq {c : Collection} (h : Indexed c.stored) (filter : Filter) :
    c.count filter = c.documents.countP filter.holds := by
  rw [count, List.countP_eq_length_filter, ← h.documents_matching, List.length_map]

namespace Connection

variable {records : String → List Document}

theorem countDocuments_yields (name : String) (filter : Value) :
    Yields (Shows records) (countDocuments name filter)
      ((Filter.read filter).map fun filter => (records name).countP filter.holds) := by
  intro c h
  rw [apply_countDocuments h.ready.connected]
  refine ⟨?_, h.touched name⟩
  cases Filter.read filter with
  | error fault => rfl
  | ok filter => simp [Except.map, (h.indexed name).count_eq, h.documents]

theorem aggregate_yields (name : String) {pipeline : Value}
    {outcome : Except Fault (List Document)}
    (hrun : Pipeline.Gives (Pipeline.run (records name) pipeline) outcome) :
    Yields (Shows records) (aggregate name pipeline) outcome := by
  intro c h
  have htouched := h.touched name
  rw [apply_aggregate h.ready.connected, h.documents]
  exact ⟨(hrun _ trivial).1, htouched.ready, htouched.documents⟩

end Connection

namespace Store

/-- The pipeline that counts the records that a filter selects. -/
def countingPipeline (filter : Value) : Value :=
  .list [.object [("$match", filter)], .object [("$group", Group.countedBy .null)]]

/-- What such a pipeline gives: one group with their number, and none when there are none. -/
def tally (count : Nat) : List Document :=
  if count = 0 then [] else [[(idKey, .null), ("n", .int count)]]

theorem countingPipeline_gives (docs : List Document) (filter : Value) :
    Pipeline.Gives (Pipeline.run docs (countingPipeline filter))
      ((Filter.read filter).map fun filter => tally (docs.countP filter.holds)) := by
  -- The second stage gathers all that the first one has kept.
  have hgroup (kept : List Document) : Pipeline.Gives
      (Pipeline.stage kept (.object [("$group", Group.countedBy .null)]))
      (.ok (tally kept.length)) := by
    refine (Pipeline.stage_group_gives kept rfl).of_eq ?_
    rw [Group.ofDocuments_null]
    cases kept with
    | nil => rfl
    | cons first rest => simp [tally, Group.counted]
  refine (Pipeline.run_pair_gives (Pipeline.stage_match_gives docs filter) hgroup).of_eq ?_
  simp only [Pipeline.Batch.stalls_group, Bool.false_eq_true, if_false]
  cases Filter.read filter with
  | error fault => rfl
  | ok filter =>
      change Except.ok (tally (docs.filter filter.holds).length) =
        Except.ok (tally (docs.countP filter.holds))
      rw [List.countP_eq_length_filter]

section

variable {records : String → List Document} (store : Store) {resource : String}
  (hresource : store.registry.has resource = true)

include hresource

theorem resource_bind_yields {α : Type} {next : Resource → Operation α}
    {outcome : Except Fault α}
    (hnext : ∀ found, Yields (State.Shows records) (next found) outcome) :
    Yields (State.Shows records) (store.resource resource >>= next) outcome := by
  obtain ⟨found, hget⟩ := Registry.has_iff_get.mp hresource
  exact ((resource_yields store resource).of_eq hget).bind_ok (hnext found)

theorem count_yields (filter : Value) :
    Yields (State.Shows records) (store.count resource filter)
      ((Filter.read filter).map fun filter => (records resource).countP filter.holds) := by
  refine resource_bind_yields store hresource fun _ => ?_
  refine ((Yields.ofExcept _).bind fun _ _ =>
    onBackend_yields (Connection.countDocuments_yields resource filter)).of_eq ?_
  cases Filter.read filter <;> rfl

theorem aggregate_yields {pipeline : Value} {outcome : Except Fault (List Document)}
    (hrun : Pipeline.Gives (Pipeline.run (records resource) pipeline) outcome) :
    Yields (State.Shows records) (store.aggregate resource pipeline) outcome :=
  resource_bind_yields store hresource fun _ =>
    onBackend_yields (Connection.aggregate_yields resource hrun)

/-- With nothing but a filter, all records are found that it selects. -/
theorem findAll_yields (filter : Value) :
    Yields (State.Shows records) (store.findAll resource { filter })
      ((Filter.read filter).map fun filter =>
        ((records resource).filter filter.holds).map Document.formatted) :=
  (answer_yields store records resource { filter }).of_eq
    (Request.answer_of_filter hresource filter)

end

/-- What it means that the three ways of counting agree for a filter: they all refuse it, or the
records found are those that it holds of, and both counts are their number. -/
structure CountsAgree (store : Store) (s : State) (resource : String) (filter : Value) : Prop where
  refused : ∀ fault, Filter.read filter = .error fault →
    ((store.count resource filter).apply s).1 = .error fault ∧
    ((store.findAll resource { filter }).apply s).1 = .error fault ∧
    ((store.aggregate resource (countingPipeline filter)).apply s).1 = .error fault
  counted : ∀ read, Filter.read filter = .ok read → ∃ found : List Document,
    ((store.findAll resource { filter }).apply s).1 = .ok found ∧
    found = ((s.records resource).filter read.holds).map Document.formatted ∧
    ((store.count resource filter).apply s).1 = .ok found.length ∧
    ((store.aggregate resource (countingPipeline filter)).apply s).1 = .ok (tally found.length)

/-- Counting, finding and grouping agree on how many records a filter selects, in every state that
programs pass through. -/
theorem counts_agree (store : Store) (s : State)
    (hpasses : (storeHost store).Passes State.IsNew s) (hconnected : s.isConnected = true)
    (resource : String) (hresource : store.registry.has resource = true) (filter : Value) :
    CountsAgree store s resource filter := by
  have h := shows_of_passes hpasses hconnected
  have hcount := (count_yields store hresource filter s h).1
  have hfound := (findAll_yields store hresource filter s h).1
  have hgiven := (aggregate_yields store hresource (countingPipeline_gives _ filter) s h).1
  constructor
  · intro fault hread
    rw [hread] at hcount hfound hgiven
    exact ⟨hcount, hfound, hgiven⟩
  · intro read hread
    rw [hread] at hcount hfound hgiven
    refine ⟨_, hfound, rfl, ?_, ?_⟩
    · rw [hcount, List.length_map, ← List.countP_eq_length_filter]
      rfl
    · rw [hgiven, List.length_map, ← List.countP_eq_length_filter]
      rfl

/-- A filter that pins the row of number three, and asks for a tag besides. -/
def pinnedRow : Value :=
  .object [("tagId", .object [("$ne", .null)]), ("_id", .text (Identifier.ofNat 3))]

theorem counts_agree_taggedBlog :
    (storeHost blog).Passes State.IsNew taggedBlog ∧ taggedBlog.isConnected = true ∧
      blog.registry.has "PostTag" = true ∧ CountsAgree blog taggedBlog "PostTag" pinnedRow := by
  have hpasses : (storeHost blog).Passes State.IsNew taggedBlog :=
    .of_reachable taggedBlog_reachable
  exact ⟨hpasses, rfl, rfl, counts_agree blog taggedBlog hpasses rfl "PostTag" rfl pinnedRow⟩

end Store

end Docbase
