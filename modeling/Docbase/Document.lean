import Docbase.Fault
import Docbase.Keyed
import Docbase.Value.Equality

/-!
# Documents

A document is an object with its keys in order. Every stored document carries its identifier
under `_id`; documents handed out show it under `id` as well.
-/

namespace Docbase

/-- The fields of a record. -/
abbrev Document := Keyed Value

/-- The key of the identifier. -/
def idKey : String := "_id"

/-- The key under which the identifier is shown to callers. -/
def publicIdKey : String := "id"

namespace Value

/-- The text of a key that is not a text itself. -/
def keyText : Value → String
  | text s => s
  | null => "null"
  | bool b => if b then "true" else "false"
  | value => value.shown

/-- The items that a value is made of: the items of a list, the keys of an object, the characters
of a text. -/
def items : Value → Except Fault (List Value)
  | list items => .ok items
  | object fields => .ok (fields.map fun field => .text field.1)
  | text s => .ok (s.toList.map fun c => .text (String.ofList [c]))
  | _ => .error .wrongType

/-- A key and its value, from an item of two parts. -/
def pair (item : Value) : Except Fault (String × Value) := do
  match ← item.items with
  | [key, value] => if key.isMutable then .error .wrongType else return (key.keyText, value)
  | _ => .error .badValue

end Value

namespace Document

/-- The value under a key; null when there is none. -/
def get (doc : Document) (key : String) : Value :=
  (Keyed.get? doc key).getD .null

/-- The document that a value describes: the value itself if it is an object, or the list of its
pairs. -/
def ofValue : Value → Except Fault Document
  | .object fields => .ok fields
  | value => do return Keyed.ofList (← (← value.items).mapM Value.pair)

/-- A document as callers see it, its identifier shown under both keys. -/
def formatted (doc : Document) : Document :=
  if (doc.get idKey).isNull then doc else Keyed.put doc publicIdKey (doc.get idKey)

/-- Adds a field to a projection if the document has it and the projection does not. -/
def keep (doc result : Document) (key : String) : Document :=
  match Keyed.get? doc key with
  | some value => if Keyed.has result key then result else Keyed.put result key value
  | none => result

/-- The named fields of a document in the order of the names, and the identifier under both keys.
Names that are no texts name nothing; lists and objects are refused. -/
def project (doc : Document) (names : List Value) : Except Fault Document := do
  let named ← names.foldlM (fun (result : Document) name =>
    match name with
    | .text key => .ok (doc.keep result key)
    | name => if name.isMutable then .error .wrongType else .ok result) []
  return doc.keep (doc.keep named idKey) publicIdKey

/-- The identifier of a document as relations see it: the one under `_id`, or failing that the
one under `id`. -/
def identifier (doc : Document) : Value :=
  if (doc.get idKey).isTruthy then doc.get idKey else doc.get publicIdKey

end Document

end Docbase
