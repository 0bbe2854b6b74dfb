import Docbase.Proofs.Agreement
import Docbase.Query.Aggregation
import Mathlib.Data.List.Induction

/-! # Pipelines that count

A grouping whose only accumulator is a count gives, for every group, the value that its documents
were gathered under and how many they are. What a pipeline gives never depends on the journal that
it writes into.
-/

namespace Docbase

open Effect

namespace Group

/-- The specification of a grouping that counts. -/
def countedBy (key : Value) : Value :=
  .object [(idKey, key), ("n", .object [("$count", .object [])])]

/-- A group as a grouping that counts gives it. -/
def counted (group : Group) : Document :=
  [(idKey, group.value), ("n", .int group.docs.length)]

theorem ofDocuments_append_singleton (valueOf : Document → Value) (docs : List Document)
    (doc : Document) : ofDocuments valueOf (docs ++ [doc]) =
      gather (valueOf doc) doc (ofDocuments valueOf docs) := by
  simp [ofDocuments, List.foldl_append]

/-- Nothing tells documents apart that are all gathered under null. -/
theorem ofDocuments_null (docs : List Document) :
    ofDocuments (fun _ => .null) docs =
      if docs.isEmpty then [] else [⟨.ofValue .null, .null, docs⟩] := by
  induction docs using List.reverseRecOn with
  | nil => rfl
  | append_singleton docs doc ih =>
      rw [ofDocuments_append_singleton, ih]
      cases docs with
      | nil => rfl
      | cons first rest => rfl

end Group

namespace Pipeline

/-- The journal makes no difference. -/
abbrev Gives {α : Type} (effect : Effect Journal α) (outcome : Except Fault α) : Prop :=
  Yields (fun _ => True) effect outcome

theorem summarize_gives (docs : List Document) (key : Value) (result : Document) :
    Gives (summarize docs [(idKey, key), ("n", .object [("$count", .object [])])] result)
      (.ok (Keyed.put result "n" (.int docs.length))) := by
  have hn : "n" ≠ idKey := by decide
  simp only [summarize, if_neg hn, ↓reduceIte]
  exact (Yields.ofExcept _).bind_ok (Yields.pure _)

theorem group_gives (docs : List Document) {key : Value} {valueOf : Document → Value}
    (hkey : groupValue key = .ok valueOf) :
    Gives (group docs (Group.countedBy key))
      (.ok ((Group.ofDocuments valueOf docs).map Group.counted)) := by
  have hsummary : ∀ found : Group, Gives
      (summarize found.docs [(idKey, key), ("n", .object [("$count", .object [])])]
        [(idKey, found.value)])
      (.ok found.counted) :=
    fun found => summarize_gives found.docs key _
  have hgroups := Yields.mapM hsummary (Group.ofDocuments valueOf docs)
  exact ((Yields.ofExcept _).of_eq hkey).bind_ok (hgroups.of_eq List.mapM_pure)

theorem stage_group_gives (docs : List Document) {key : Value} {valueOf : Document → Value}
    (hkey : groupValue key = .ok valueOf) :
    Gives (stage docs (.object [("$group", Group.countedBy key)]))
      (.ok ((Group.ofDocuments valueOf docs).map Group.counted)) := by
  have hstage : stage docs (.object [("$group", Group.countedBy key)]) =
      group docs (Group.countedBy key) := by
    simp [stage]
  rw [hstage]
  exact group_gives docs hkey

theorem stage_match_gives (docs : List Document) (spec : Value) :
    Gives (stage docs (.object [("$match", spec)]))
      ((Filter.read spec).map fun filter => docs.filter filter.holds) := by
  have hstage : stage docs (.object [("$match", spec)]) = (do
      let filter ← Effect.ofExcept (Filter.read spec)
      return docs.filter filter.holds) := by
    simp [stage]
  rw [hstage]
  refine ((Yields.ofExcept _).bind fun filter _ => Yields.pure (docs.filter filter.holds)).of_eq ?_
  cases Filter.read spec <;> rfl

/-! ## Taking documents on -/

namespace Batch

theorem stalls_given (docs : List Document) (spec : Value) : (given docs).stalls spec = false := by
  unfold stalls
  split <;> rfl

theorem stalls_group (batch : Batch) (spec : Value) :
    batch.stalls (.object [("$group", spec)]) = false := by
  simp [stalls]

/-- What becomes of documents at a stage that has an outcome for them. -/
def onward (batch : Batch) (spec : Value) (outcome : Except Fault (List Document)) :
    Except Fault Batch :=
  if batch.stalls spec then .error .badValue else (⟨·, batch.isMadeBy spec⟩) <$> outcome

theorem passed_gives {batch : Batch} {spec : Value} {outcome : Except Fault (List Document)}
    (h : Gives (stage batch.docs spec) outcome) :
    Gives (batch.passed spec) (batch.onward spec outcome) := by
  unfold passed onward
  cases batch.stalls spec with
  | true => exact fun _ _ => ⟨rfl, trivial⟩
  | false =>
      refine (h.bind fun docs _ => Yields.pure (Batch.mk docs (batch.isMadeBy spec))).of_eq ?_
      cases outcome <;> rfl

end Batch

theorem run_gives_docs {stages : List Value} {docs : List Document} {outcome : Except Fault Batch}
    (h : Gives (stages.foldlM Batch.passed (.given docs)) outcome) :
    Gives (run docs (.list stages)) (Batch.docs <$> outcome) := by
  have hdocs := h.bind fun batch _ => Yields.pure batch.docs
  refine (Yields.bind_ok (Yields.ofExcept _) hdocs).of_eq ?_
  cases outcome <;> rfl

theorem run_single_gives {spec : Value} {docs : List Document}
    {outcome : Except Fault (List Document)} (h : Gives (stage docs spec) outcome) :
    Gives (run docs (.list [spec])) outcome := by
  have hpassed : Gives ((Batch.given docs).passed spec) _ := Batch.passed_gives h
  have hstages : Gives ([spec].foldlM Batch.passed (.given docs)) _ :=
    hpassed.bind fun batch _ => Yields.pure batch
  refine (run_gives_docs hstages).of_eq ?_
  rw [Batch.onward, Batch.stalls_given]
  cases outcome <;> rfl

/-- A second stage has to be able to search what the first one leaves. -/
theorem run_pair_gives {first second : Value} {docs : List Document}
    {outcome : Except Fault (List Document)}
    {outcome' : List Document → Except Fault (List Document)}
    (hfirst : Gives (stage docs first) outcome)
    (hsecond : ∀ docs, Gives (stage docs second) (outcome' docs)) :
    Gives (run docs (.list [first, second])) (outcome >>= fun kept =>
      if Batch.stalls ⟨kept, (Batch.given docs).isMadeBy first⟩ second then .error .badValue
      else outcome' kept) := by
  have hpassed : Gives ((Batch.given docs).passed first) _ := Batch.passed_gives hfirst
  have hstages : Gives ([first, second].foldlM Batch.passed (.given docs)) _ :=
    hpassed.bind fun batch _ =>
      (Batch.passed_gives (hsecond batch.docs)).bind fun last _ => Yields.pure last
  refine (run_gives_docs hstages).of_eq ?_
  rw [Batch.onward, Batch.stalls_given]
  cases outcome with
  | error fault => rfl
  | ok kept =>
      change Batch.docs <$> (Batch.onward ⟨kept, _⟩ second (outcome' kept) >>= Except.ok) = ite ..
      rw [Batch.onward]
      split
      next => rfl
      next => cases outcome' kept <;> rfl

end Pipeline

end Docbase
