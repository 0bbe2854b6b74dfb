import Docbase.Effect
import Docbase.Journal
import Docbase.Number.Arithmetic
import Docbase.Query.FilterReader

/-!
# Aggregation

A pipeline takes documents through its stages in order: a stage keeps the documents that satisfy a
filter, or gathers them into groups by the value of a field. Stages and accumulators of other
names are passed over with a note in the journal.
-/

namespace Docbase

/-- What a group is identified by. Truth values are told apart from numbers; lists and objects are
identified by their text. -/
inductive GroupKey where
  /-- A value that is neither a list nor an object. -/
  | plain (value : Value)
  /-- The text of a list or an object. -/
  | shown (text : String)

namespace GroupKey

/-- The key of a value. -/
def ofValue (value : Value) : GroupKey :=
  if value.isMutable then shown value.quoted else plain value

/-- Whether two keys identify the same group. -/
def same : GroupKey → GroupKey → Bool
  | plain a, plain b => a.sameKind b
  | shown s, shown t => s == t
  | _, _ => false

end GroupKey

/-- Documents gathered under a key. -/
structure Group where
  /-- What identifies the group. -/
  key : GroupKey
  /-- The value that the first of its documents was gathered under. -/
  value : Value
  /-- Its documents, in order. -/
  docs : List Document

namespace Group

/-- Adds a document to the group of its value, which is opened at the end if there is none. -/
def gather (value : Value) (doc : Document) : List Group → List Group
  | [] => [⟨.ofValue value, value, [doc]⟩]
  | group :: rest =>
    if group.key.same (.ofValue value) then { group with docs := group.docs ++ [doc] } :: rest
    else group :: gather value doc rest

/-- The groups of documents by a value, in the order in which the values first occur. -/
def ofDocuments (valueOf : Document → Value) (docs : List Document) : List Group :=
  docs.foldl (fun groups doc => gather (valueOf doc) doc groups) []

end Group

/-- Ways of summing up a group. -/
inductive Accumulator where
  /-- The sum of a field, or a number for every document. -/
  | sum
  /-- The number of documents. -/
  | count
  /-- The mean of a field. -/
  | avg
  deriving DecidableEq, Repr

namespace Accumulator

/-- The accumulator of a key. -/
def ofKey? (key : String) : Option Accumulator :=
  [("$sum", sum), ("$count", count), ("$avg", avg)].lookup key

/-- The field that an operand refers to: its text after a dollar sign. -/
def fieldOf? : Value → Option String
  | .text s =>
    match s.toList with
    | '$' :: c :: rest => some (String.ofList (c :: rest))
    | _ => none
  | _ => none

/-- The sum of a field over documents. -/
def total (docs : List Document) (field : String) : Except Fault Quantity :=
  Quantity.sum (docs.map fun doc => .ofValue (doc.get field))

/-- Sums up documents. -/
def apply (docs : List Document) (operand : Value) : Accumulator → Except Fault Value
  | count => .ok (.int docs.length)
  | sum =>
    match fieldOf? operand, operand with
    | some field, _ => Quantity.toValue <$> total docs field
    | none, .int n => Quantity.toValue <$> (Quantity.whole n).times docs.length
    | none, .double x => Quantity.toValue <$> (Quantity.real x).times docs.length
    | none, _ => .ok (.int 0)
  | avg =>
    match fieldOf? operand with
    | some field => do return (← (← total docs field).dividedBy docs.length).toValue
    | none => .ok .null

end Accumulator

namespace Pipeline

/-- Writes a note into the journal. -/
def note (message : String) : Effect Journal Unit :=
  modify fun journal => journal ++ [⟨Level.debug, "Aggregate", message, []⟩]

/-- The value that documents are grouped by: null for all, or a field named with or without a
dollar sign. -/
def groupValue (spec : Value) : Except Fault (Document → Value) :=
  match spec, Accumulator.fieldOf? spec with
  | .null, _ => .ok fun _ => .null
  | _, some field => .ok fun doc => doc.get field
  | .text field, none => .ok fun doc => doc.get field
  | spec, none => .error (.query (.badGroupKey spec))

/-- The operator of an accumulator and its operand. -/
def single? : Value → Option (String × Value)
  | .object [entry] => some entry
  | _ => none

/-- Sums up a group by the accumulators of a stage, in order. -/
def summarize (docs : List Document) : List (String × Value) → Document →
    Effect Journal Document
  | [], result => return result
  | (name, accumulator) :: rest, result => do
    if name = idKey then summarize docs rest result
    else match single? accumulator with
      | none => throw (.query (.badAccumulator name))
      | some (key, operand) =>
        match Accumulator.ofKey? key with
        | none =>
          note ("Skipping unsupported accumulator " ++ key ++ " for '" ++ name ++ "'")
          summarize docs rest result
        | some accumulator =>
          let value ← Effect.ofExcept (accumulator.apply docs operand)
          summarize docs rest (Keyed.put result name value)

/-- Gathers documents into groups and sums up each of them. -/
def group (docs : List Document) (spec : Value) : Effect Journal (List Document) := do
  match spec with
  | .object fields =>
    let valueOf ← Effect.ofExcept (groupValue (Document.get fields idKey))
    (Group.ofDocuments valueOf docs).mapM fun group =>
      summarize group.docs fields [(idKey, group.value)]
  | _ => throw (.query .groupNotObject)

/-- Takes documents through a stage. -/
def stage (docs : List Document) (stage : Value) : Effect Journal (List Document) := do
  match stage with
  | .object [] => return docs
  | .object [(name, spec)] =>
    if name = "$match" then
      let filter ← Effect.ofExcept (Filter.read spec)
      return docs.filter filter.holds
    else if name = "$group" then group docs spec
    else
      note ("Passing documents through unsupported stage " ++ name)
      return docs
  | .object fields => throw (.query (.manyStageNames ((Keyed.keys fields).mergeSort)))
  | stage => throw (.query (.stageNotObject stage.typeName))

/-- Documents on their way through a pipeline. -/
structure Batch where
  /-- The documents. -/
  docs : List Document
  /-- Whether a grouping has made them. Only then can there be numbers in them that are too long to
  be written. -/
  isMade : Bool

namespace Batch

/-- The documents that a pipeline begins with. -/
def given (docs : List Document) : Batch :=
  ⟨docs, false⟩

/-- Whether a stage comes upon a search in a number that is too long to be written. -/
def stalls (batch : Batch) : Value → Bool
  | .object [(name, spec)] =>
    batch.isMade && name == "$match" &&
      match Filter.read spec with
      | .ok filter => batch.docs.any filter.stalls
      | .error _ => false
  | _ => false

/-- Whether the documents that a stage leaves are made by a grouping. -/
def isMadeBy (batch : Batch) : Value → Bool
  | .object [(name, _)] => batch.isMade || name == "$group"
  | _ => batch.isMade

/-- Takes documents on through a stage. -/
def passed (batch : Batch) (spec : Value) : Effect Journal Batch := do
  if batch.stalls spec then throw .badValue
  return ⟨← stage batch.docs spec, batch.isMadeBy spec⟩

end Batch

/-- Takes documents through a pipeline. -/
def run (docs : List Document) (pipeline : Value) : Effect Journal (List Document) := do
  let stages ← Effect.ofExcept pipeline.items
  return (← stages.foldlM Batch.passed (.given docs)).docs

end Pipeline

end Docbase
