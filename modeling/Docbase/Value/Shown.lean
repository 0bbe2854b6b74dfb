import Docbase.Number.Decimal
import Docbase.Value.Basic

/-!
# Values as text

How values are written into messages. A text by itself is written as it is; inside a list or an
object, and where a message quotes a value, it is put in quotes. An integer can only be written up
to a number of digits. The same limit holds where integers are read, so that all that is given to a
store can be written, and only the sums that a grouping makes of it can be too long.
-/

namespace Docbase.Value

/-- The text of an integer that can be written. -/
def intText (n : Int) : String :=
  let digits := String.ofList (Nat.toDigits 10 n.natAbs)
  if n < 0 then "-" ++ digits else digits

/-- The text of a truth value. -/
def boolText (b : Bool) : String :=
  if b then "True" else "False"

mutual

/-- A value as quoted by messages. -/
def quoted : Value → String
  | null => "None"
  | bool b => boolText b
  | int n => intText n
  | double x => x.text
  | text s => Text.quote s
  | list items => "[" ++ ", ".intercalate (quotedItems items) ++ "]"
  | object fields => "\x7b" ++ ", ".intercalate (quotedFields fields) ++ "\x7d"
  | pattern p => p.shown
  | leaf l => l.shown

/-- The items of a list as quoted. -/
def quotedItems : List Value → List String
  | [] => []
  | item :: rest => quoted item :: quotedItems rest

/-- The fields of an object as quoted. -/
def quotedFields : List (String × Value) → List String
  | [] => []
  | (key, value) :: rest => (Text.quote key ++ ": " ++ quoted value) :: quotedFields rest

end

/-- The text of a value. -/
def shown : Value → String
  | text s => s
  | leaf l => l.text
  | value => quoted value

mutual

/-- Whether a value can be written: no integer in it has too many digits. -/
def isWritable : Value → Bool
  | int n => n.natAbs < Nat.pow 10 Text.digitLimit
  | list items => areWritable items
  | object fields => haveWritable fields
  | _ => true

/-- Whether all items of a list can be written. -/
def areWritable : List Value → Bool
  | [] => true
  | item :: rest => isWritable item && areWritable rest

/-- Whether the values of all fields can be written. -/
def haveWritable : List (String × Value) → Bool
  | [] => true
  | (_, value) :: rest => isWritable value && haveWritable rest

end

end Docbase.Value
