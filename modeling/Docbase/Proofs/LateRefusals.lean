import Docbase.Proofs.Explanations

/-! # Mistakes in pipelines that are found late

A pipeline is checked while documents go through it, stage by stage. What is wrong with a stage is
found whether documents come to it or not, with one exception: the accumulators of a grouping are
looked at while a group is summed up, so that one that is no single operator is passed over as long
as there is nothing to group. And what goes wrong before it hides a mistake: an accumulator that
overflows for some documents and not for others, or a search in a sum that has become too long.
-/

namespace Docbase

open Effect

namespace Pipeline

/-- A pipeline is refused for documents, with a mistake in the query as the reason. -/
def Rejects (docs : List Document) (pipeline : Value) : Prop :=
  ∃ cause, Gives (run docs pipeline) (.error (.query cause))

/-- An entry of a grouping that is no single operator with its operand. -/
def IsShapeless (entry : String × Value) : Prop :=
  entry.1 ≠ idKey ∧ single? entry.2 = none

/-- A stage is a mistake for all documents. -/
inductive StageMistaken : Value → Prop
  | notObject {spec : Value} (h : ∀ fields, spec ≠ .object fields) : StageMistaken spec
  | manyNames (first second : String × Value) (rest : List (String × Value)) :
      StageMistaken (.object (first :: second :: rest))
  | filter {spec : Value} {cause : QueryFault} (h : Filter.read spec = .error (.query cause)) :
      StageMistaken (.object [("$match", spec)])
  | groupNotObject {spec : Value} (h : ∀ fields, spec ≠ .object fields) :
      StageMistaken (.object [("$group", spec)])
  | groupKey {fields : List (String × Value)} (hnull : Document.get fields idKey ≠ .null)
      (htext : ∀ name, Document.get fields idKey ≠ .text name) : StageMistaken (grouping fields)

section

variable {docs : List Document} {spec : Value} {fields : List (String × Value)}
  {entry : String × Value} {valueOf : Document → Value}

theorem groupValue_eq_error {fault : Fault} : groupValue spec = .error fault ↔
    spec ≠ .null ∧ (∀ name, spec ≠ .text name) ∧ fault = .query (.badGroupKey spec) := by
  cases spec with
  | null => simp [groupValue]
  | text name =>
      refine iff_of_false (fun h => ?_) fun h => h.2.1 name rfl
      unfold groupValue at h
      split at h <;> cases h
  | _ => simp [groupValue, Accumulator.fieldOf?, eq_comm]

theorem staged_grouping_nil (hvalue : groupValue (Document.get fields idKey) = .ok valueOf) :
    staged [] (grouping fields) = .ok [] := by
  rw [grouping, staged_group, group_eq, apply_bind, apply_ofExcept, hvalue]
  rfl

/-- What becomes of documents at a stage: it is a mistake, or it fails for another reason, or it
never fails, or it groups the documents. -/
inductive StageKind (spec : Value) : Prop
  | mistaken (h : StageMistaken spec)
  | unexplained (fault : Fault) (hfault : ¬fault.IsQuery)
      (hstaged : ∀ docs, staged docs spec = .error fault)
  | carried (result : List Document → List Document) (hnil : result [] = [])
      (hstaged : ∀ docs, staged docs spec = .ok (result docs))
  | grouped (fields : List (String × Value)) (valueOf : Document → Value)
      (hspec : spec = grouping fields)
      (hvalue : groupValue (Document.get fields idKey) = .ok valueOf)

theorem stageKind_match (spec : Value) : StageKind (.object [("$match", spec)]) := by
  cases hread : Filter.read spec with
  | error fault =>
      by_cases hfault : fault.IsQuery
      · obtain ⟨cause, rfl⟩ := hfault
        exact .mistaken (.filter hread)
      · exact .unexplained fault hfault fun docs => by rw [staged_match, hread]; rfl
  | ok filter =>
      exact .carried (fun docs => docs.filter filter.holds) rfl fun docs => by
        rw [staged_match, hread]; rfl

theorem stageKind_group (spec : Value) : StageKind (.object [("$group", spec)]) := by
  cases spec with
  | object fields =>
      cases hvalue : groupValue (Document.get fields idKey) with
      | ok valueOf => exact .grouped fields valueOf rfl hvalue
      | error fault =>
          obtain ⟨hnull, htext, -⟩ := groupValue_eq_error.mp hvalue
          exact .mistaken (.groupKey hnull htext)
  | _ => exact .mistaken (.groupNotObject (by simp))

theorem stageKind (spec : Value) : StageKind spec := by
  cases spec with
  | object names =>
      cases names with
      | nil => exact .carried id rfl fun _ => rfl
      | cons first others =>
          obtain ⟨name, spec⟩ := first
          cases others with
          | nil =>
              by_cases hmatch : name = "$match"
              · rw [hmatch]
                exact stageKind_match spec
              by_cases hgroup : name = "$group"
              · rw [hgroup]
                exact stageKind_group spec
              exact .carried id rfl fun docs => by
                simp only [staged, stage, if_neg hmatch, if_neg hgroup]
                rfl
          | cons second rest => exact .mistaken (.manyNames (name, spec) second rest)
  | _ => exact .mistaken (.notObject (by simp))

theorem StageMistaken.staged_eq (h : StageMistaken spec) :
    ∃ cause, ∀ docs, staged docs spec = .error (.query cause) := by
  cases h with
  | notObject h =>
      cases spec with
      | object fields => exact absurd rfl (h fields)
      | _ => exact ⟨_, fun _ => rfl⟩
  | manyNames first second rest => exact ⟨_, fun _ => rfl⟩
  | filter h => exact ⟨_, fun docs => by rw [staged_match, h]; rfl⟩
  | @groupNotObject spec h =>
      cases spec with
      | object fields => exact absurd rfl (h fields)
      | _ => exact ⟨_, fun docs => staged_group docs _⟩
  | @groupKey fields hnull htext =>
      refine ⟨.badGroupKey (Document.get fields idKey), fun docs => ?_⟩
      rw [grouping, staged_group, group_eq, groupValue_eq_error.mpr ⟨hnull, htext, rfl⟩]
      rfl

/-- What can be made of documents can be made of no documents. -/
theorem staged_nil_of_ok {reached : List Document} (h : staged docs spec = .ok reached) :
    staged [] spec = .ok [] := by
  cases stageKind spec with
  | mistaken hmistaken =>
      obtain ⟨cause, hstaged⟩ := hmistaken.staged_eq
      cases (hstaged docs).symm.trans h
  | unexplained fault hfault hstaged => cases (hstaged docs).symm.trans h
  | carried result hnil hstaged => rw [hstaged, hnil]
  | grouped fields valueOf hspec hvalue => rw [hspec, staged_grouping_nil hvalue]

end

/-! ## What becomes of documents on their way -/

namespace Batch

variable {batch next : Batch} {spec : Value}

theorem staged_nil (h : batch.staged spec = .ok next) :
    staged ⟨[], batch.isMade⟩ spec = .ok ⟨[], next.isMade⟩ := by
  obtain ⟨-, hdocs, hmade⟩ := staged_eq_ok.mp h
  refine staged_eq_ok.mpr ⟨?_, staged_nil_of_ok hdocs, hmade⟩
  rw [Bool.eq_false_iff, ne_eq, stalls_iff]
  rintro ⟨-, _, _, -, -, doc, hdoc, -⟩
  cases hdoc

theorem foldlM_staged_nil {stages : List Value} (h : stages.foldlM staged batch = .ok next) :
    stages.foldlM staged ⟨[], batch.isMade⟩ = .ok ⟨[], next.isMade⟩ := by
  induction stages generalizing batch with
  | nil =>
      cases h
      rfl
  | cons spec rest ih =>
      rw [List.foldlM_cons] at h ⊢
      obtain ⟨middle, hmiddle, hrest⟩ := Validated.bind_eq_ok.mp h
      rw [staged_nil hmiddle]
      exact ih hrest

end Batch

/-- What can be made of documents can be made of no documents. -/
theorem Reaches.nil {docs reached : List Document} {before : List Value}
    (h : Reaches docs before reached) : Reaches [] before [] := by
  obtain ⟨batch, hbatch, -⟩ := reaches_iff.mp h
  exact reaches_of_staged (Batch.foldlM_staged_nil hbatch)

/-! ## Two runs of a pipeline -/

/-- Two lists of documents go through stages of which none breaks, and both or none of them have
documents left wherever they come to a grouping with an entry that is no single operator. -/
structure GoAlike (docs docs' : List Document) (stages : List Value) : Prop where
  left : ∀ before spec after reached fault, stages = before ++ spec :: after →
    Reaches docs before reached → ¬StageBreaks before reached spec fault
  right : ∀ before spec after reached fault, stages = before ++ spec :: after →
    Reaches docs' before reached → ¬StageBreaks before reached spec fault
  together : ∀ before fields after reached reached', stages = before ++ grouping fields :: after →
    Reaches docs before reached → Reaches docs' before reached' →
    (∃ entry ∈ fields, IsShapeless entry) → (reached = [] ↔ reached' = [])

namespace GoAlike

variable {docs docs' : List Document} {before later : List Value} {spec : Value}
  {batch batch' : Batch}

theorem symm {stages : List Value} (h : GoAlike docs docs' stages) : GoAlike docs' docs stages where
  left := h.right
  right := h.left
  together before fields after reached reached' hstages hreached hreached' hshapeless :=
    (h.together before fields after reached' reached hstages hreached' hreached hshapeless).symm

variable (h : GoAlike docs docs' (before ++ spec :: later))
  (hbatch : before.foldlM Batch.staged (.given docs) = .ok batch)
  (hbatch' : before.foldlM Batch.staged (.given docs') = .ok batch')

include h hbatch hbatch'

end GoAlike

/-! ## Refusals -/

/-- The mistake that a pipeline is refused for. -/
def mistake? (docs : List Document) (pipeline : Value) : Option QueryFault :=
  match ((run docs pipeline).apply []).1 with
  | .error (.query cause) => some cause
  | _ => none

theorem rejects_iff_isSome {docs : List Document} {pipeline : Value} :
    Rejects docs pipeline ↔ (mistake? docs pipeline).isSome = true := by
  unfold mistake?
  constructor
  · rintro ⟨cause, hgives⟩
    rw [(hgives [] trivial).1]
    rfl
  · intro h
    split at h
    next cause hrun =>
      have houtcome := ((run_gives docs pipeline) [] trivial).1
      exact ⟨cause, (run_gives docs pipeline).of_eq (houtcome.symm.trans hrun)⟩
    next => cases h

instance (docs : List Document) (pipeline : Value) : Decidable (Rejects docs pipeline) :=
  decidable_of_iff _ rejects_iff_isSome.symm

/-- The entries of a grouping of all documents, with a number for an accumulator. -/
def numberedEntries : List (String × Value) :=
  [(idKey, .null), ("n", .int 5)]

/-- Groups all documents, with a number for an accumulator. -/
def numbered : Value :=
  .list [grouping numberedEntries]

/-- A document with the greatest number that can be written. -/
def greatest : Document :=
  [("x", .int (10 ^ Text.digitLimit - 1))]

end Pipeline

end Docbase
