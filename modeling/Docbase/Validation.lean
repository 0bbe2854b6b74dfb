import Docbase.Number.Decimal
import Docbase.Document

/-!
# Validation

Reading typed records out of values. Every part of a record is read, so that all violations are
found, each with the way that leads to it. Texts are taken for truth values and numbers where they
spell one, and keys that a record does not know are passed over.
-/

namespace Docbase

/-- A step on the way to a part of a value. -/
inductive Step where
  /-- To the value under a key. -/
  | key (name : String)
  /-- To the item at an index. -/
  | index (n : Nat)
  deriving DecidableEq, Repr

/-- What is wrong with a part of a value. -/
inductive Complaint where
  /-- There is no such part. -/
  | missing
  /-- It is not a text. -/
  | notText
  /-- It spells no truth value. -/
  | unreadableBool
  /-- It cannot be a truth value. -/
  | notBool
  /-- It spells no number. -/
  | unreadableNumber
  /-- It cannot be a number. -/
  | notNumber
  /-- It is none of the values to choose from. -/
  | notAChoice
  /-- It is not a list. -/
  | notList
  /-- It is not an object. -/
  | notObject
  /-- It breaks a rule of the record. -/
  | rule (message : String)
  deriving DecidableEq, Repr

/-- The name of a complaint. -/
def Complaint.name : Complaint → String
  | missing => "missing"
  | notText => "string_type"
  | unreadableBool => "bool_parsing"
  | notBool => "bool_type"
  | unreadableNumber => "float_parsing"
  | notNumber => "float_type"
  | notAChoice => "enum"
  | notList => "list_type"
  | notObject => "model_type"
  | rule _ => "value_error"

/-- A complaint about the part of a value that a way leads to. -/
structure Violation where
  /-- The way. -/
  way : List Step
  /-- The complaint. -/
  complaint : Complaint
  deriving DecidableEq, Repr

/-- The result of reading: a value, or what is wrong. -/
abbrev Validated (α : Type) := Except (List Violation) α

namespace Validated

variable {α β : Type}

/-- A complaint about the value itself. -/
def refuse (complaint : Complaint) : Validated α :=
  .error [⟨[], complaint⟩]

/-- Lengthens the ways of all violations by a step in front. -/
def under (step : Step) (result : Validated α) : Validated α :=
  result.mapError (·.map fun violation => { violation with way := step :: violation.way })

/-- Hands a further part on to what has been read so far; the violations of both are kept. -/
def plus (next : Validated α) (read : Validated (α → β)) : Validated β :=
  match read, next with
  | .ok f, .ok a => .ok (f a)
  | .ok _, .error e => .error e
  | .error e, .ok _ => .error e
  | .error e, .error e' => .error (e ++ e')

/-- Reads every item of a list, counting from an index. -/
def each (read : Value → Validated α) : Nat → List Value → Validated (List α)
  | _, [] => .ok []
  | n, item :: rest =>
    .ok List.cons |> plus (under (.index n) (read item)) |> plus (each read (n + 1) rest)

/-- Reads a text. -/
def text : Value → Validated String
  | .text s => .ok s
  | _ => refuse .notText

/-- The words for truth values, in small letters. -/
def boolWords : List (String × Bool) :=
  [("0", false), ("off", false), ("f", false), ("false", false), ("n", false), ("no", false),
    ("1", true), ("on", true), ("t", true), ("true", true), ("y", true), ("yes", true)]

/-- Whether a double is a whole number. -/
def isWhole : Double → Bool
  | .finite _ quanta => quanta % Double.one == 0
  | _ => false

/-- Reads a truth value: itself, one or zero, or a word for it. -/
def bool : Value → Validated Bool
  | .bool b => .ok b
  | .text s =>
    match boolWords.lookup (s.map Char.toLower) with
    | some b => .ok b
    | none => refuse .unreadableBool
  | .int n =>
    if n = 0 then .ok false
    else if n = 1 then .ok true
    else if (Double.ofInt? n).isSome then refuse .unreadableBool
    else refuse .notBool
  | .double x =>
    if isWhole x then
      if x.isZero then .ok false
      else if x = .finite false Double.one then .ok true
      else refuse .unreadableBool
    else refuse .notBool
  | _ => refuse .notBool

/-- White space around the texts of numbers. -/
def isMargin (c : Char) : Bool :=
  Text.isBlank c && !(28 ≤ c.toNat && c.toNat ≤ 31)

/-- The number that a text spells, with white space around it or single underscores within. -/
def readNumber? (text : List Char) : Option Double :=
  let body := ((text.dropWhile isMargin).reverse.dropWhile isMargin).reverse
  match Double.ofText? body with
  | some x => some x
  | none =>
    let parts := text.splitOn '_'
    if 1 < parts.length && parts.all (fun part => !part.isEmpty) then Double.ofText? parts.flatten
    else none

/-- Reads a number. -/
def number : Value → Validated Double
  | .double x => .ok x
  | .int n =>
    match Double.ofInt? n with
    | some x => .ok x
    | none => refuse .notNumber
  | .bool b => .ok (.finite false (if b then Double.one else 0))
  | .text s =>
    match readNumber? s.toList with
    | some x => .ok x
    | none => refuse .unreadableNumber
  | _ => refuse .notNumber

/-- Reads one of several choices by its name. -/
def choice (ofName? : String → Option α) : Value → Validated α
  | .text s =>
    match ofName? s with
    | some a => .ok a
    | none => refuse .notAChoice
  | _ => refuse .notAChoice

/-- Reads null, or what else is asked for. -/
def optional (read : Value → Validated α) : Value → Validated (Option α)
  | .null => .ok none
  | value => (read value).map some

/-- Reads a list. -/
def list (read : Value → Validated α) : Value → Validated (List α)
  | .list items => each read 0 items
  | _ => refuse .notList

/-- The value under the first of some keys that an object has, with that key. -/
def lookup? (fields : Document) (keys : List String) : Option (String × Value) :=
  keys.findSome? fun key => (Keyed.get? fields key).map fun value => (key, value)

/-- Reads a part that has to be there. -/
def required (fields : Document) (key : String) (read : Value → Validated α) : Validated α :=
  match Keyed.get? fields key with
  | some value => under (.key key) (read value)
  | none => under (.key key) (refuse .missing)

/-- Reads a part that may be absent, under the first of its keys that is there. -/
def part (fields : Document) (keys : List String) (absent : α) (read : Value → Validated α) :
    Validated α :=
  match lookup? fields keys with
  | some (key, value) => under (.key key) (read value)
  | none => .ok absent

/-- Reads a record out of an object. -/
def record (read : Document → Validated α) : Value → Validated α
  | .object fields => read fields
  | _ => refuse .notObject

end Validated

end Docbase
