import Docbase.Proofs.Batches
import Docbase.Proofs.Counting
import Docbase.Proofs.Decomposition
import Docbase.Proofs.Paging

/-! # Queries that fail without an explanation

A query that fails is said to be a mistake in the query, with five exceptions: a pattern may be
refused for another reason than its syntax, what to sort by may be of a type that has no names in
it, a pipeline may be nothing that has stages, an accumulator may overflow, and a sum may become too
long for its text to be searched. Nothing else can go wrong in a query for records that the store
has, whatever it is made of.
-/

namespace Docbase

open Effect Script

namespace Pipeline

/-- What goes wrong when documents are summed up for an entry of a grouping. -/
def entryFault? (docs : List Document) : String × Value → Option Fault
  | (name, accumulator) =>
    if name = idKey then none
    else match single? accumulator with
      | none => some (.query (.badAccumulator name))
      | some (key, operand) =>
        match Accumulator.ofKey? key with
        | none => none
        | some accumulator => faultOf? (accumulator.apply docs operand)

/-- What goes wrong with an operation, whatever the journal. -/
def Fails {α : Type} (effect : Effect Journal α) (fault? : Option Fault) : Prop :=
  ∀ journal, faultOf? (effect.apply journal).1 = fault?

section

variable {α β : Type} {effect : Effect Journal α} {fault? : Option Fault}

theorem Fails.pure (value : α) : Fails (Pure.pure value : Effect Journal α) none :=
  fun _ => rfl

theorem Fails.ofExcept (result : Except Fault α) :
    Fails (Effect.ofExcept result) (faultOf? result) :=
  fun _ => rfl

theorem Fails.bind {next : α → Effect Journal β} {later? : Option Fault}
    (heffect : Fails effect fault?) (hnext : ∀ value, Fails (next value) later?) :
    Fails (effect >>= next) (fault?.or later?) := by
  intro journal
  rw [apply_bind, ← heffect journal]
  rcases effect.apply journal with ⟨result, after⟩
  cases result with
  | error fault => rfl
  | ok value => exact hnext value after

theorem Fails.mapM {effect : β → Effect Journal α} {fault? : β → Option Fault}
    (h : ∀ item, Fails (effect item) (fault? item)) (items : List β) :
    Fails (items.mapM effect) (items.findSome? fault?) := by
  induction items with
  | nil => exact Fails.pure []
  | cons item rest ih =>
      rw [List.mapM_cons, findSome?_cons_eq_or, ← Option.or_none (o := rest.findSome? fault?)]
      exact (h item).bind fun _ => ih.bind fun _ => Fails.pure _

end

/-- Documents cannot be summed up: an accumulator of the grouping overflows, and nothing goes wrong
before. -/
inductive GroupOverflows (docs : List Document) (fields : List (String × Value)) : Prop
  | intro {before after : List (String × Value)} {name key : String} {operand : Value}
      {accumulator : Accumulator}
      (hfields : fields = before ++ (name, .object [(key, operand)]) :: after)
      (hbefore : ∀ entry ∈ before, entryFault? docs entry = none) (hname : name ≠ idKey)
      (hkey : Accumulator.ofKey? key = some accumulator)
      (hoverflows : accumulator.Overflows docs operand) : GroupOverflows docs fields

/-- Documents cannot be grouped: one of their groups cannot be summed up, and those before can. -/
inductive Overflows (docs : List Document) (fields : List (String × Value)) : Prop
  | intro {valueOf : Document → Value} {earlier later : List Group} {group : Group}
      (hvalue : groupValue (Document.get fields idKey) = .ok valueOf)
      (hgroups : Group.ofDocuments valueOf docs = earlier ++ group :: later)
      (hearlier : ∀ other ∈ earlier, ∀ entry ∈ fields, entryFault? other.docs entry = none)
      (hgroup : GroupOverflows group.docs fields) : Overflows docs fields

/-- The stage of a grouping. -/
def grouping (fields : List (String × Value)) : Value :=
  .object [("$group", .object fields)]

/-- A stage goes wrong for documents that come to it from others: it is a grouping that overflows,
or it searches, behind a grouping, in what cannot be written. -/
inductive StageBreaks (before : List Value) (docs : List Document) : Value → Fault → Prop
  | overflows {fields : List (String × Value)} (h : Overflows docs fields) :
      StageBreaks before docs (grouping fields) .tooLarge
  | stalls {grouped sought : Value} {filter : Filter} {doc : Document}
      (hgrouped : .object [("$group", grouped)] ∈ before)
      (hread : Filter.read sought = .ok filter) (hdoc : doc ∈ docs) (h : filter.Stalls doc) :
      StageBreaks before docs (.object [("$match", sought)]) .badValue

/-- A stage fails for a fault that is not explained as a mistake in the query. -/
inductive StageEscapes (before : List Value) (docs : List Document) (spec : Value) : Fault → Prop
  | refused {sought : Value} {fault : Fault} (hspec : spec = .object [("$match", sought)])
      (h : Filter.Escapes sought fault) : StageEscapes before docs spec fault
  | broken {fault : Fault} (h : StageBreaks before docs spec fault) :
      StageEscapes before docs spec fault

/-- A pipeline fails for a fault that is not explained as a mistake in the query: it is nothing that
has stages, or a stage fails so that is reached. -/
inductive Escapes (docs : List Document) (pipeline : Value) : Fault → Prop
  | wrongType (hlist : ∀ items, pipeline ≠ .list items)
      (hobject : ∀ fields, pipeline ≠ .object fields)
      (htext : ∀ text, pipeline ≠ .text text) : Escapes docs pipeline .wrongType
  | stage {before after : List Value} {spec : Value} {reached : List Document} {fault : Fault}
      (hitems : pipeline.items = .ok (before ++ spec :: after))
      (hreached : Reaches docs before reached) (h : StageEscapes before reached spec fault) :
      Escapes docs pipeline fault

theorem group_eq (docs : List Document) (fields : List (String × Value)) :
    group docs (.object fields) =
      Effect.ofExcept (groupValue (Document.get fields idKey)) >>= fun valueOf =>
        (Group.ofDocuments valueOf docs).mapM fun found =>
          summarize found.docs fields [(idKey, found.value)] := rfl

section

variable {docs : List Document} {fault : Fault} (hfault : ¬fault.IsQuery)

include hfault

end

end Pipeline

namespace Store

/-- The filter for names that a pattern matches. -/
def named (pattern : String) : Value :=
  .object [("name", .object [("$regex", .text pattern)])]

end Store

end Docbase
