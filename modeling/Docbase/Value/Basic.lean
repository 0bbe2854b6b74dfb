import Docbase.Number.Double
import Docbase.Pattern.Basic

/-!
# Values

What a document can hold, and what filters, schemas and settings are written in: the values of
JSON with exact integers, and beside them compiled patterns and the leaves that only other
notations have. Objects keep their keys in order.
-/

namespace Docbase

/-- A leaf that JSON has no notation for, such as a date: the name of its type, its text, and the
form in which it is shown inside a list. -/
structure Leaf where
  /-- The name of the type. -/
  kind : String
  /-- The text. -/
  text : String
  /-- The text as shown inside other values. -/
  shown : String
  deriving DecidableEq, Repr, Inhabited

/-- A value. -/
inductive Value where
  /-- The absence of a value. -/
  | null
  /-- A truth value. -/
  | bool (b : Bool)
  /-- An integer of any size. -/
  | int (n : Int)
  /-- A double. -/
  | double (x : Double)
  /-- A text. -/
  | text (s : String)
  /-- A list. -/
  | list (items : List Value)
  /-- An object, with its keys in order. -/
  | object (fields : List (String × Value))
  /-- A compiled pattern. -/
  | pattern (p : Pattern)
  /-- A leaf of another notation. -/
  | leaf (l : Leaf)

instance : Inhabited Value := ⟨.null⟩

namespace Value

/-- The name of a value's type. Unlike types are sorted by it. -/
def typeName : Value → String
  | null => "NoneType"
  | bool _ => "bool"
  | int _ => "int"
  | double _ => "float"
  | text _ => "str"
  | list _ => "list"
  | object _ => "dict"
  | pattern _ => "Pattern"
  | leaf l => l.kind

/-- Whether a value is the absence of one. -/
def isNull : Value → Bool
  | null => true
  | _ => false

/-- Whether a value counts as true: it is neither null, false, zero nor empty. -/
def isTruthy : Value → Bool
  | null => false
  | bool b => b
  | int n => n != 0
  | double x => !x.isZero
  | text s => s != ""
  | list items => !items.isEmpty
  | object fields => !fields.isEmpty
  | pattern _ => true
  | leaf _ => true

/-- Whether a value has no fixed place in a table of keys, since it can change. -/
def isMutable : Value → Bool
  | list _ => true
  | object _ => true
  | _ => false

/-- The whole number that a value counts as: truth values count as one and zero. -/
def asInt? : Value → Option Int
  | bool b => some (if b then 1 else 0)
  | int n => some n
  | _ => none

end Value

end Docbase
