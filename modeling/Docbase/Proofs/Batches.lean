import Docbase.Proofs.Overflows
import Docbase.Proofs.Stalls
import Docbase.Proofs.Tolerance

/-! # Documents on their way through a pipeline

What a stage makes of documents depends on nothing else, and so does what the stages of a pipeline
make of them one after the other. On their way documents are what the last stage has made of them,
and whether one of the stages was a grouping. Only then can a search in them stall.
-/

namespace Docbase

open Effect

namespace Pipeline

/-- What a stage makes of documents. -/
def staged (docs : List Document) (spec : Value) : Except Fault (List Document) :=
  ((stage docs spec).apply []).1

theorem stage_gives (docs : List Document) (spec : Value) :
    Gives (stage docs spec) (staged docs spec) := by
  intro journal _
  have h := stage_agrees journal [] docs spec journal [] ⟨[], (List.append_nil _).symm, rfl⟩
  exact ⟨h.1, trivial⟩

theorem staged_match (docs : List Document) (spec : Value) :
    staged docs (.object [("$match", spec)]) =
      (Filter.read spec).map fun filter => docs.filter filter.holds :=
  (stage_match_gives docs spec [] trivial).1

theorem staged_group (docs : List Document) (spec : Value) :
    staged docs (.object [("$group", spec)]) = ((group docs spec).apply []).1 := by
  simp [staged, stage]

namespace Batch

/-- What becomes of documents on their way at a stage. -/
def staged (batch : Batch) (spec : Value) : Except Fault Batch :=
  batch.onward spec (Pipeline.staged batch.docs spec)

theorem passed_gives_staged (batch : Batch) (spec : Value) :
    Gives (batch.passed spec) (batch.staged spec) :=
  passed_gives (stage_gives batch.docs spec)

theorem staged_eq_ok {batch next : Batch} {spec : Value} : batch.staged spec = .ok next ↔
    batch.stalls spec = false ∧ Pipeline.staged batch.docs spec = .ok next.docs ∧
      next.isMade = batch.isMadeBy spec := by
  rw [staged, onward]
  cases batch.stalls spec with
  | true => simp
  | false =>
      simp only [Bool.false_eq_true, if_false, true_and]
      constructor
      · intro h
        obtain ⟨docs, hdocs, rfl⟩ := Validated.map_eq_ok.mp h
        exact ⟨hdocs, rfl⟩
      · rintro ⟨hdocs, hmade⟩
        rw [hdocs, ← hmade]
        rfl

end Batch

theorem run_gives (docs : List Document) (pipeline : Value) :
    Gives (run docs pipeline) (pipeline.items >>= fun stages =>
      Batch.docs <$> stages.foldlM Batch.staged (.given docs)) := by
  refine (Yields.ofExcept _).bind fun stages _ => ?_
  exact (Yields.foldlM Batch.passed_gives_staged (.given docs) stages).bind fun batch _ =>
    Yields.pure batch.docs

/-- The stages that documents go through give others. -/
def Reaches (docs : List Document) (before : List Value) (reached : List Document) : Prop :=
  Gives (run docs (.list before)) (.ok reached)

theorem reaches_iff {docs reached : List Document} {before : List Value} :
    Reaches docs before reached ↔
      ∃ batch, before.foldlM Batch.staged (.given docs) = .ok batch ∧ batch.docs = reached := by
  rw [← Validated.map_eq_ok]
  constructor
  · intro h
    exact ((run_gives docs (.list before)) [] trivial).1.symm.trans (h [] trivial).1
  · intro h
    exact (run_gives docs (.list before)).of_eq h

theorem reaches_of_staged {docs : List Document} {before : List Value} {batch : Batch}
    (h : before.foldlM Batch.staged (.given docs) = .ok batch) : Reaches docs before batch.docs :=
  reaches_iff.mpr ⟨batch, h, rfl⟩

end Pipeline

end Docbase
