import Docbase.Proofs.Grouping
import Docbase.Proofs.Meaning

/-! # Filters on groups

No operator but a search tells values apart that are gathered into one group. A filter of the groups
by what their documents were gathered under therefore keeps the groups that there are if the
documents are filtered first, by what they are to be gathered under.
-/

namespace Docbase

open Effect

namespace Value

/-! ## What operators do not tell apart -/

/-- No question of equality or order is answered for one value as it is not for the other. -/
structure Indistinct (a b : Value) : Prop where
  sameKind_eq : a.sameKind = b.sameKind
  orderHolds_eq (question : Ordered) :
    Condition.orderHolds question a = Condition.orderHolds question b

theorem Indistinct.refl (a : Value) : Indistinct a a :=
  ⟨rfl, fun _ => rfl⟩

theorem number_of_identity {a : Value} {place : Double.Place} (h : a.identity = .inr place) :
    a.place? = some place ∧ a.isNumeric = true ∧ ∀ b, a ≠ .bool b := by
  cases a with
  | int n => exact ⟨congrArg some (Sum.inr.inj h), rfl, by simp⟩
  | double x =>
      rw [identity] at h
      cases hplace : x.place? with
      | none => rw [hplace] at h; cases h
      | some found =>
          rw [hplace] at h
          exact ⟨hplace.trans (congrArg some (Sum.inr.inj h)), rfl, by simp⟩
  | _ => cases h

theorem indistinct_of_place {a b : Value} (ha : a.isNumeric = true) (hb : b.isNumeric = true)
    (hne : ∀ x, a ≠ .bool x) (hne' : ∀ x, b ≠ .bool x) (hplace : a.place? = b.place?) :
    Indistinct a b := by
  constructor
  case sameKind_eq =>
    funext operand
    cases a <;> cases ha <;> cases b <;> cases hb <;> cases operand <;>
      simp_all [sameKind, eq, samePlace]
  case orderHolds_eq =>
    intro question
    funext operand
    cases a <;> cases ha <;> cases b <;> cases hb <;>
      simp_all [Condition.orderHolds, isNull, compare?, compareNumbers]

/-- Values that are gathered together are one value, or numbers at one place. -/
theorem indistinct_of_identity {a b : Value} (h : a.identity = b.identity) : Indistinct a b := by
  cases hidentity : b.identity with
  | inl value =>
      rw [hidentity] at h
      rw [eq_of_identity h, eq_of_identity hidentity]
      exact .refl value
  | inr place =>
      rw [hidentity] at h
      obtain ⟨hplace, hnumeric, hne⟩ := number_of_identity h
      obtain ⟨hplace', hnumeric', hne'⟩ := number_of_identity hidentity
      exact indistinct_of_place hnumeric hnumeric' hne hne' (hplace.trans hplace'.symm)

/-- What is given for a field asks for no search: it is no pattern, and none is sought by an
operator, not even under negations. -/
inductive Searchless : Value → Prop
  | plain {given : Value} (hobject : ∀ entries, given ≠ .object entries)
      (hpattern : ∀ sought, given ≠ .pattern sought) : Searchless given
  | object {entries : List (String × Value)}
      (hregex : ∀ entry ∈ entries, Operator.ofKey? entry.1 ≠ some .regex)
      (hnot : ∀ entry ∈ entries, Operator.ofKey? entry.1 = some .not → Searchless entry.2) :
      Searchless (.object entries)

section

variable {a b : Value} (h : Indistinct a b)

include h

theorem Indistinct.answers_iff {options operand : Value} {operator : Option Operator}
    (hregex : operator ≠ some .regex)
    (hnot : operator = some .not → (a.Meets operand ↔ b.Meets operand)) :
    a.Answers options operator operand ↔ b.Answers options operator operand := by
  cases operator with
  | none => simp [Answers, h.sameKind_eq]
  | some operator =>
      cases operator with
      | regex => exact absurd rfl hregex
      | not => rw [Answers, Answers, hnot rfl]
      | _ => simp [Answers, h.sameKind_eq, h.orderHolds_eq]

theorem Indistinct.meets_iff {given : Value} (hgiven : given.Searchless) :
    a.Meets given ↔ b.Meets given := by
  induction hgiven with
  | @plain given hobject hpattern =>
      rw [Meets.eq_3 _ _ hobject hpattern, Meets.eq_3 _ _ hobject hpattern, h.sameKind_eq]
  | object hregex hnot ih =>
      rw [Meets, Meets, h.sameKind_eq]
      split
      next =>
        refine forall₃_congr fun entry hentry _ => ?_
        exact h.answers_iff (hregex entry hentry) (ih entry hentry)
      next => rfl

end

end Value

namespace Group

/-! ## Groups of what is kept -/

variable {valueOf : Document → Value} {docs : List Document} {kept : Value → Bool}

theorem gather_filter_of_kept {value : Value} {doc : Document} {groups : List Group}
    (hvalue : kept value = true)
    (h : ∀ group ∈ groups, group.key.same (.ofValue value) = true → kept group.value = true) :
    (gather value doc groups).filter (fun group => kept group.value) =
      gather value doc (groups.filter fun group => kept group.value) := by
  induction groups with
  | nil => simp [gather, hvalue]
  | cons group rest ih =>
      obtain ⟨hgroup, hrest⟩ := List.forall_mem_cons.mp h
      by_cases hsame : group.key.same (.ofValue value) = true
      · simp [gather, hsame, hgroup hsame]
      · by_cases hkept : kept group.value = true
        · simp [gather, hsame, hkept, ih hrest]
        · simp [gather, hsame, hkept, ih hrest]

theorem gather_filter_of_not_kept {value : Value} {doc : Document} {groups : List Group}
    (hvalue : kept value = false)
    (h : ∀ group ∈ groups, group.key.same (.ofValue value) = true → kept group.value = false) :
    (gather value doc groups).filter (fun group => kept group.value) =
      groups.filter fun group => kept group.value := by
  induction groups with
  | nil => simp [gather, hvalue]
  | cons group rest ih =>
      obtain ⟨hgroup, hrest⟩ := List.forall_mem_cons.mp h
      by_cases hsame : group.key.same (.ofValue value) = true
      · simp [gather, hsame, hgroup hsame]
      · simp [gather, hsame, List.filter_cons, ih hrest]

/-- The groups of the documents that are kept are the groups that are kept. -/
theorem ofDocuments_filter (hjson : ∀ doc ∈ docs, (valueOf doc).IsJson)
    (hkept : ∀ a b : Value, a.identity = b.identity → kept a = kept b) :
    ofDocuments valueOf (docs.filter fun doc => kept (valueOf doc)) =
      (ofDocuments valueOf docs).filter fun group => kept group.value := by
  induction docs using List.reverseRecOn with
  | nil => rfl
  | append_singleton docs doc ih =>
      obtain ⟨hdocs, hdoc⟩ := List.forall_mem_append.mp hjson
      have hparts := parts_ofDocuments hdocs
      -- A document goes only into a group that is kept if and only if the document is.
      have hsame : ∀ group ∈ ofDocuments valueOf docs,
          group.key.same (.ofValue (valueOf doc)) = true →
            kept group.value = kept (valueOf doc) := by
        intro group hgroup hsame
        rw [hparts.keyed group hgroup] at hsame
        exact hkept _ _ ((hparts.isGathered_iff hdocs (hdoc doc (.head _)) hgroup).mp hsame)
      rw [ofDocuments_append_singleton, List.filter_append, List.filter_singleton]
      cases hvalue : kept (valueOf doc) with
      | false =>
          rw [hvalue] at hsame
          rw [gather_filter_of_not_kept hvalue hsame, cond_false, List.append_nil, ih hdocs]
      | true =>
          rw [hvalue] at hsame
          rw [gather_filter_of_kept hvalue hsame, cond_true, ofDocuments_append_singleton, ih hdocs]

end Group

namespace Filter

/-- What is given for a field is read for any other field as well, and holds of the same values. -/
theorem readField_renamed {field : String} {given : Value} {conditions : List Condition}
    (h : readField field given = .ok conditions) (other : String) :
    ∃ renamed, readField other given = .ok renamed ∧
      ∀ value, Condition.allHold value renamed = Condition.allHold value conditions := by
  cases hother : readField other given with
  | error fault =>
      have hmistaken := (isSome_faultOf?_readField other given).mp (by rw [hother]; rfl)
      rw [← isSome_faultOf?_readField field, h] at hmistaken
      cases hmistaken
  | ok renamed =>
      refine ⟨renamed, rfl, fun value => ?_⟩
      rw [Bool.eq_iff_iff, meets_of_readField hother, meets_of_readField h]

end Filter

namespace Pipeline

/-! ## Pipelines that filter and group -/

/-- The outcome of summing documents up does not depend on the journal, and keeps the identifier. -/
theorem exists_summarize_gives (docs : List Document) (entries : List (String × Value))
    (result : Document) : ∃ outcome, Gives (summarize docs entries result) outcome ∧
      ∀ summary, outcome = .ok summary → summary.get idKey = result.get idKey := by
  induction entries generalizing result with
  | nil => exact ⟨_, Yields.pure result, fun _ h => by rw [Except.ok.inj h]⟩
  | cons entry rest ih =>
      obtain ⟨name, accumulator⟩ := entry
      rw [summarize]
      split
      next => exact ih result
      next hname =>
        cases single? accumulator with
        | none => exact ⟨_, Yields.ofExcept (.error _), by simp⟩
        | some single =>
            dsimp only
            cases Accumulator.ofKey? single.1 with
            | none =>
                obtain ⟨outcome, hgives, hid⟩ := ih result
                exact ⟨outcome, Yields.bind_ok (fun _ _ => ⟨rfl, trivial⟩) hgives, hid⟩
            | some accumulator =>
                choose outcome hgives hid using fun value => ih (Keyed.put result name value)
                refine ⟨_, (Yields.ofExcept _).bind fun value _ => hgives value,
                  fun summary hsummary => ?_⟩
                obtain ⟨value, -, hvalue⟩ := Validated.bind_eq_ok.mp hsummary
                rw [hid value summary hvalue, Document.get,
                  Keyed.get?_put_of_ne _ _ (Ne.symm hname), Document.get]

theorem stage_group_yields {entries : List (String × Value)} {valueOf : Document → Value}
    {outcome : Group → Except Fault Document}
    (hvalue : groupValue (Document.get entries idKey) = .ok valueOf)
    (houtcome : ∀ group : Group,
      Gives (summarize group.docs entries [(idKey, group.value)]) (outcome group))
    (docs : List Document) :
    Gives (stage docs (.object [("$group", .object entries)]))
      ((Group.ofDocuments valueOf docs).mapM outcome) := by
  have hstage : stage docs (.object [("$group", .object entries)]) =
      group docs (.object entries) := by
    simp [stage]
  rw [hstage]
  exact ((Yields.ofExcept _).of_eq hvalue).bind_ok (Yields.mapM houtcome _)

theorem ite_error_eq_ok {α : Type} {c : Prop} [Decidable c] {fault : Fault}
    {result : Except Fault α} {value : α} :
    (if c then .error fault else result) = .ok value ↔ ¬c ∧ result = .ok value := by
  split <;> simp [*]

/-- What comes of filtering after a function has been applied to each item comes of filtering
before, if the filters agree. -/
theorem mapM_filter_eq_ok {α β : Type} {f : α → Except Fault β} {p : α → Bool} {q : β → Bool}
    {items : List α} {results : List β} (h : items.mapM f = .ok results)
    (hagree : ∀ item result, f item = .ok result → q result = p item) :
    (items.filter p).mapM f = .ok (results.filter q) := by
  induction items generalizing results with
  | nil => cases h; rfl
  | cons item rest ih =>
      rw [List.mapM_cons] at h
      obtain ⟨result, hresult, h⟩ := Validated.bind_eq_ok.mp h
      obtain ⟨others, hothers, h⟩ := Validated.bind_eq_ok.mp h
      cases h
      have hitem := hagree item result hresult
      cases hp : p item with
      | false => simp [hp, hitem, ih hothers]
      | true =>
          rw [List.filter_cons_of_pos hp, List.mapM_cons, hresult, ih hothers,
            List.filter_cons_of_pos (hitem.trans hp)]
          rfl

/-- The pipeline that groups documents and then keeps the groups whose identifiers meet what is
given. -/
def groupedThenKept (entries : List (String × Value)) (given : Value) : Value :=
  .list [.object [("$group", .object entries)], .object [("$match", .object [(idKey, given)])]]

/-- The pipeline that keeps the documents whose values meet what is given for a field, and then
groups them. -/
def keptThenGrouped (k : String) (given : Value) (entries : List (String × Value)) : Value :=
  .list [.object [("$match", .object [(k, given)])], .object [("$group", .object entries)]]

/-- If documents are grouped by a field, then it makes no difference whether the groups are filtered
by what they are gathered under, or the documents by the field: what the former gives, if it gives
anything, is what the latter gives. -/
theorem filter_commutes_with_grouping {k : String} (hname : k ≠ "")
    (hkey : Connective.ofKey? k = none) {docs : List Document}
    (hjson : ∀ doc ∈ docs, (doc.get k).IsJson) {given : Value} (hgiven : given.Searchless)
    {entries : List (String × Value)} (hentries : Document.get entries idKey = .text ("$" ++ k))
    {journal journal' : Journal} {result : List Document}
    (hresult : ((run docs (groupedThenKept entries given)).apply journal).1 = .ok result) :
    ((run docs (keptThenGrouped k given entries)).apply journal').1 = .ok result := by
  choose outcome houtcome hid using
    fun group : Group => exists_summarize_gives group.docs entries [(idKey, group.value)]
  have hvalue := groupValue_reference hname
  rw [← hentries] at hvalue
  have hgroup := stage_group_yields hvalue houtcome
  have hgrouped := run_pair_gives (hgroup docs)
    fun summaries => stage_match_gives summaries (.object [(idKey, given)])
  have hkept := run_pair_gives (stage_match_gives docs (.object [(k, given)])) hgroup
  simp only [Batch.stalls_group, Bool.false_eq_true, if_false] at hkept
  rw [groupedThenKept, (hgrouped journal trivial).1] at hresult
  obtain ⟨summaries, hsummaries, hresult⟩ := Validated.bind_eq_ok.mp hresult
  obtain ⟨-, hresult⟩ := ite_error_eq_ok.mp hresult
  rw [Filter.read_single Filter.ofKey?_idKey] at hresult
  obtain ⟨filter, hfilter, rfl⟩ := Validated.map_eq_ok.mp hresult
  obtain ⟨conditions, hconditions, rfl⟩ := Validated.map_eq_ok.mp hfilter
  obtain ⟨renamed, hrenamed, hsame⟩ := Filter.readField_renamed hconditions k
  -- The conditions hold of all that is gathered under one value, or of nothing of it.
  have hconstant (a b : Value) (hidentity : a.identity = b.identity) :
      Condition.allHold a conditions = Condition.allHold b conditions := by
    rw [Bool.eq_iff_iff, Filter.meets_of_readField hconditions,
      Filter.meets_of_readField hconditions]
    exact (Value.indistinct_of_identity hidentity).meets_iff hgiven
  have hread : Filter.read (.object [(k, given)]) = .ok [.field k renamed] := by
    rw [Filter.read_single hkey, hrenamed]
    rfl
  have hholds : Filter.holds [.field k renamed] =
      fun doc => Condition.allHold (doc.get k) conditions := by
    funext doc
    rw [Filter.holds_single, hsame]
  rw [keptThenGrouped, (hkept journal' trivial).1, hread]
  change (Group.ofDocuments _ (docs.filter (Filter.holds [.field k renamed]))).mapM outcome = _
  rw [hholds, Group.ofDocuments_filter hjson hconstant]
  refine mapM_filter_eq_ok hsummaries fun group summary hsummary => ?_
  rw [Filter.holds_single, hid group summary hsummary]
  rfl

/-- Deals, two of them at one stage, and one at none. -/
def stagedDeals : List Document :=
  [[("stage", .text "new")], [("stage", .text "won")], [("stage", .text "new")], []]

/-- What is given for a stage at which a deal is not closed. -/
def underWay : Value :=
  .object [("$not", .object [("$in", .list [.text "won", .text "lost"])]), ("$ne", .null)]

theorem stagedDeals_isJson : ∀ doc ∈ stagedDeals, (doc.get "stage").IsJson := by
  refine List.forall_mem_cons.mpr ⟨.text "new", List.forall_mem_cons.mpr ⟨.text "won", ?_⟩⟩
  exact List.forall_mem_cons.mpr ⟨.text "new", List.forall_mem_singleton.mpr .null⟩

theorem underWay_searchless : underWay.Searchless := by
  have hclosed : Value.Searchless (.list [.text "won", .text "lost"]) :=
    .plain (by simp) (by simp)
  have hnull : Value.Searchless .null := .plain (by simp) (by simp)
  have hinner : Value.Searchless (.object [("$in", .list [.text "won", .text "lost"])]) :=
    .object (by decide) (List.forall_mem_singleton.mpr fun _ => hclosed)
  refine .object (by decide) (List.forall_mem_cons.mpr ⟨fun _ => hinner, ?_⟩)
  exact List.forall_mem_singleton.mpr fun _ => hnull

theorem filter_commutes_with_grouping_stagedDeals :
    let entries : List (String × Value) :=
      [(idKey, .text "$stage"), ("n", .object [("$count", .object [])])]
    let result : List Document := [[(idKey, .text "new"), ("n", .int 2)]]
    ((run stagedDeals (groupedThenKept entries underWay)).apply []).1 = .ok result ∧
      ((run stagedDeals (keptThenGrouped "stage" underWay entries)).apply []).1 = .ok result := by
  have hkey : groupValue (.text "$stage") = .ok fun doc => doc.get "stage" := rfl
  have hgrouped := run_pair_gives (stage_group_gives stagedDeals hkey) fun groups =>
    stage_match_gives groups (.object [(idKey, underWay)])
  have hresult := hgrouped.of_eq
    (show _ = Except.ok [[(idKey, .text "new"), ("n", .int 2)]] by rfl)
  refine ⟨(hresult [] trivial).1, ?_⟩
  exact filter_commutes_with_grouping (by decide) (by decide) stagedDeals_isJson
    underWay_searchless rfl (hresult [] trivial).1

end Pipeline

end Docbase
