import Docbase.Document
import Docbase.Yaml.Node
import Docbase.Yaml.Plain

/-!
# Reading YAML

The values that the nodes of a text stand for. The keys of mappings are scalars of any kind; of
equal keys the last one counts, in the place of the first. Pairs merged into a mapping come before
its own.
-/

namespace Docbase.Yaml

/-- A value whose mappings keep their keys as values. -/
inductive Datum where
  /-- A value that is neither a list nor a mapping. -/
  | plain (value : Value)
  /-- A list. -/
  | list (items : List Datum)
  /-- A mapping. -/
  | table (entries : List (Value × Datum))

namespace Datum

mutual

/-- A datum as a value, with its keys as texts. -/
def toValue : Datum → Value
  | plain value => value
  | list items => .list (toValues items)
  | table entries => .object (Keyed.ofList (toFields entries))

/-- The items of a list as values. -/
def toValues : List Datum → List Value
  | [] => []
  | item :: rest => toValue item :: toValues rest

/-- The entries of a mapping under their keys as texts. -/
def toFields : List (Value × Datum) → List (String × Value)
  | [] => []
  | (key, item) :: rest => (key.keyText, toValue item) :: toFields rest

end

/-- Puts a datum under a key: in the place of an equal key, otherwise at the end. -/
def put : List (Value × Datum) → Value × Datum → List (Value × Datum)
  | [], entry => [entry]
  | first :: rest, entry =>
    if first.1 == entry.1 then (first.1, entry.2) :: rest else first :: put rest entry

/-- A mapping of one pair as a list of two. -/
def pair : Datum → Reading Datum
  | table [(key, item)] => .ok (list [plain key, item])
  | _ => refuse

end Datum

namespace Node

/-- The kind of a scalar: that of its tag, or the one that its text decides on. -/
def scalarKind (tag : Option String) (text : String) (isPlain : Bool) : Reading ScalarKind :=
  match tag with
  | some tag =>
    match ScalarKind.ofTag? tag with
    | some kind => .ok kind
    | none => refuse
  | none => .ok (if isPlain then ScalarKind.ofText text else .text)

/-- Whether a node is a scalar of a kind. -/
def isOfKind (kind : ScalarKind) : Node → Bool
  | scalar tag text isPlain =>
    match scalarKind tag text isPlain with
    | .ok found => found = kind
    | .error _ => false
  | _ => false

/-- Whether a tag is one of some of the language, or missing. -/
def isTag (tag : Option String) (names : List String) : Bool :=
  tag.all fun tag => names.any fun name => tag == ScalarKind.tagStart ++ name

/-- Whether a node is a scalar, as a key has to be. -/
def isScalar : Node → Bool
  | scalar .. => true
  | _ => false

mutual

/-- The datum that a node stands for. -/
def datum : Node → Reading Datum
  | scalar tag text isPlain => do
    return .plain (← (← scalarKind tag text isPlain).read text)
  | list tag items => do
    if isTag tag ["seq"] then return .list (← data items)
    else if isTag tag ["omap", "pairs"] then return .list (← (← data items).mapM Datum.pair)
    else refuse
  | mapping tag pairs => do
    if !isTag tag ["map", "set"] then refuse
    let entries := (← entries pairs).foldl Datum.put []
    if isTag tag ["map"] then return .table entries
    else return .list (entries.map fun entry => .plain entry.1)

/-- The data that nodes stand for. -/
def data : List Node → Reading (List Datum)
  | [] => .ok []
  | node :: rest => do return (← datum node) :: (← data rest)

/-- The entries that pairs stand for: those merged into them, and then their own. -/
def entries (pairs : List (Node × Node)) : Reading (List (Value × Datum)) := do
  return (← mergedEntries pairs) ++ (← ownEntries pairs)

/-- The entries of what is merged into pairs. -/
def mergedEntries : List (Node × Node) → Reading (List (Value × Datum))
  | [] => .ok []
  | (key, item) :: rest => do
    if isOfKind .merge key then return (← nodeEntries item) ++ (← mergedEntries rest)
    else mergedEntries rest

/-- The entries of a mapping, or of the mappings of a list from the last one on. -/
def nodeEntries : Node → Reading (List (Value × Datum))
  | scalar .. => refuse
  | mapping _ pairs => entries pairs
  | list _ items => listEntries items

/-- The entries of mappings from the last one on. -/
def listEntries : List Node → Reading (List (Value × Datum))
  | [] => .ok []
  | mapping _ pairs :: rest => do
    let first ← entries pairs
    return (← listEntries rest) ++ first
  | _ => refuse

/-- The entries that pairs stand for themselves. -/
def ownEntries : List (Node × Node) → Reading (List (Value × Datum))
  | [] => .ok []
  | (key, item) :: rest => do
    if isOfKind .merge key then ownEntries rest
    else if !isScalar key then refuse
    else
      let key ← if isOfKind .value key then .ok (.plain (.text "=")) else datum key
      match key with
      | .plain key =>
        let item ← datum item
        return (key, item) :: (← ownEntries rest)
      | _ => refuse

end

end Node

/-- The datum that a text writes; null for an empty one. -/
def read (text : String) : Reading Datum := do
  match ← Node.ofText text with
  | some node => node.datum
  | none => return .plain .null

end Docbase.Yaml
