import Docbase.Document

/-!
# Includes

What related documents to embed in documents that are found: a way through relations, its names
joined by dots, and the fields to keep of the documents at its end.
-/

namespace Docbase

/-- A way through relations. -/
structure Include where
  /-- The names of the relations, joined by dots. -/
  path : String
  /-- The fields to keep of the documents at the end; all of them when there is none. -/
  select : Option (List Value) := none

namespace Include

/-- The names of the relations on the way. -/
def segments (spec : Include) : List String :=
  (spec.path.toList.splitOn '.').map String.ofList

/-- The names of a way, joined. -/
def join (segments : List String) : String :=
  ".".intercalate segments

/-- The first relation on the way. -/
def head (spec : Include) : String :=
  spec.segments.headD ""

/-- What is left of the way after its first relation. -/
def rest? (spec : Include) : Option String :=
  match spec.segments with
  | _ :: next :: more => some (join (next :: more))
  | _ => none

/-- Reads an include: a way, or an object with a way and fields to keep. -/
def ofValue (item : Value) : Except Fault Include :=
  match item with
  | .text path => .ok { path }
  | .object fields =>
    match Document.get fields "relation" with
    | .text path =>
      match Document.get fields "select" with
      | .null => .ok { path }
      | select => do return { path, select := some (← select.items) }
    | _ => .error (.query (.badInclude item))
  | _ => .error (.query (.badInclude item))

/-- Reads includes: a way, or a list of includes. -/
def readAll (value : Value) : Except Fault (List Include) :=
  if !value.isTruthy then .ok []
  else match value with
    | .text path => .ok [{ path }]
    | value => do (← value.items).mapM ofValue

end Include

end Docbase
