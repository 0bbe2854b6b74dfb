import Docbase.Document
import Docbase.StableSort
import Docbase.Text.Base
import Docbase.Text.Case
import Docbase.Value.Order

/-!
# Sorting

Documents are sorted by fields, the first unequal one deciding. Texts are compared by their base
characters with case folded, and by themselves when these agree; null and missing values come last
in either direction; values without an order are compared by the names of their types and then by
their texts. The sort is stable.
-/

namespace Docbase

/-- A field to sort by. -/
structure SortField where
  /-- The name of the field. -/
  field : String
  /-- Whether larger values come first. -/
  descending : Bool := false
  deriving DecidableEq, Repr

/-- The form of a text that it is sorted by. -/
def collationKey (text : String) : String :=
  Text.foldCase (Text.base text)

namespace SortField

/-- Reads a field name with a minus sign in front for descending order. -/
def ofText (text : String) : SortField :=
  match text.toList with
  | '-' :: rest => ⟨String.ofList rest, true⟩
  | _ => ⟨text, false⟩

/-- The sign that comparisons by the field are multiplied by. -/
def direction (field : SortField) : Int :=
  if field.descending then -1 else 1

/-- Reads a direction: whether it is the descending one. -/
def readDirection (name : String) (direction : Value) : Except Fault Bool :=
  let word := Text.lower (Text.trimmed direction.shown)
  if word ∈ ["asc", "ascending", "1"] then .ok false
  else if word ∈ ["desc", "descending", "-1"] then .ok true
  else .error (.query (.badDirection direction name))

/-- The parts of a text between commas, trimmed, without the blank ones. -/
def entries (text : String) : List String :=
  ((text.toList.splitOn ',').map Text.trim).filterMap fun part =>
    if part.isEmpty then none else some (String.ofList part)

/-- Reads what to sort by: an object of directions, a list of names or a text of names between
commas. -/
def readAll (order : Value) : Except Fault (List SortField) :=
  if !order.isTruthy then .ok []
  else match order with
    | .text text => .ok ((entries text).map ofText)
    | .object fields =>
      fields.mapM fun (name, direction) => do
        return ⟨name, ← readDirection name direction⟩
    | .list items =>
      items.mapM fun item =>
        match item with
        | .text text => .ok (ofText text)
        | _ => .error .missingPart
    | _ => .error .wrongType

end SortField

namespace Value

/-- Compares texts by their form for sorting, and by themselves when these agree. -/
def collate (s t : String) : Int :=
  if s = t then 0
  else if collationKey s ≠ collationKey t then
    if collationKey s < collationKey t then -1 else 1
  else if s < t then -1 else 1

/-- Compares texts by character codes. -/
def compareTexts (s t : String) : Int :=
  if s < t then -1 else if t < s then 1 else 0

/-- Compares two values for sorting: negative, zero or positive. -/
def collateValues (a b : Value) : Int :=
  if eq a b then 0
  else match a, b with
    | text s, text t => collate s t
    | a, b =>
      match compare? .less a b, compare? .greater a b with
      | some true, _ => -1
      | some false, some true => 1
      | some false, some false => 0
      | _, _ =>
        if a.typeName ≠ b.typeName then compareTexts a.typeName b.typeName
        else compareTexts a.shown b.shown

end Value

/-- Compares two documents by the fields in turn. -/
def compareDocuments (fields : List SortField) (a b : Document) : Int :=
  match fields with
  | [] => 0
  | field :: rest =>
    let x := a.get field.field
    let y := b.get field.field
    if x.isNull && y.isNull then compareDocuments rest a b
    else if x.isNull then 1
    else if y.isNull then -1
    else
      let sign := Value.collateValues x y
      if sign ≠ 0 then sign * field.direction else compareDocuments rest a b

/-- Sorts documents, keeping the order of those that compare equal. -/
def sortDocuments (docs : List Document) (fields : List SortField) : List Document :=
  if fields.isEmpty then docs
  else stableSort (fun a b => decide (compareDocuments fields a b < 0)) docs

end Docbase
