import Docbase.Document

/-!
# The tables of a TOML text

What a TOML text has defined so far: its tables, and which of them may no longer be opened or added
to. A table that has been declared may not be declared again, and what a value has defined is
closed for good.
-/

namespace Docbase.Toml

/-- The way to a table: keys from the outermost table inwards. -/
abbrev Path := List String

/-- What has been defined so far. -/
structure Tables where
  /-- The outermost table. -/
  root : Document := []
  /-- The tables that have been declared. -/
  declared : List Path := []
  /-- Where values stand that are lists or tables; nothing is added there or further inwards. -/
  closed : List Path := []
  /-- The tables that count as declared from the next declaration on. -/
  pending : List Path := []

/-- Changes the table at the end of a way, which is made where it is missing. The last item of a
list of tables stands for the list, if lists may be entered; nothing but tables can be entered
otherwise. -/
def within (enterLists : Bool) (change : Document → Option Document) :
    Path → Document → Option Document
  | [], table => change table
  | key :: path, table =>
    match Keyed.get? table key with
    | none => do
      return Keyed.put table key (.object (← within enterLists change path []))
    | some (.object inner) => do
      return Keyed.put table key (.object (← within enterLists change path inner))
    | some (.list items) =>
      match enterLists, items.getLast? with
      | true, some (.object inner) => do
        let last ← within enterLists change path inner
        return Keyed.put table key (.list (items.dropLast ++ [.object last]))
      | _, _ => none
    | some _ => none

/-- Adds a value under a key that is free. -/
def addNew (key : String) (value : Value) (table : Document) : Option Document :=
  if Keyed.has table key then none else some (Keyed.put table key value)

/-- Adds an empty table to the list under a key, which is made if it is missing. -/
def addTable (key : String) (table : Document) : Option Document :=
  match Keyed.get? table key with
  | none => some (Keyed.put table key (.list [.object []]))
  | some (.list items) => some (Keyed.put table key (.list (items ++ [.object []])))
  | some _ => none

namespace Tables

/-- Whether a way leads into what a value has closed. -/
def isClosed (tables : Tables) (path : Path) : Bool :=
  tables.closed.any fun closed => closed.isPrefixOf path

/-- Counts the pending tables as declared. -/
def settle (tables : Tables) : Tables :=
  { tables with declared := tables.pending ++ tables.declared, pending := [] }

/-- Declares a table. -/
def declare (tables : Tables) (path : Path) : Option Tables := do
  if path ∈ tables.declared ∨ tables.isClosed path then none
  let root ← within true some path tables.root
  return { tables with root, declared := path :: tables.declared }

/-- Declares the next table of a list. What was declared within the one before is free again. -/
def declareNext (tables : Tables) (path : Path) : Option Tables := do
  if tables.isClosed path then none
  let free := fun paths : List Path => paths.filter fun other => !path.isPrefixOf other
  let key ← path.getLast?
  let root ← within true (addTable key) path.dropLast tables.root
  return { tables with
    root, declared := path :: free tables.declared, closed := free tables.closed }

/-- The ways that a key of several parts goes through, seen from a table. -/
def through (header key : Path) : List Path :=
  ((List.range key.length).drop 1).map fun n => header ++ key.take n

/-- Whether a value has tables or items of its own. -/
def isNest : Value → Bool
  | .object _ => true
  | .list _ => true
  | _ => false

/-- Defines the value of a key in a declared table. -/
def define (tables : Tables) (header key : Path) (value : Value) : Option Tables := do
  let passed := through header key
  if passed.any fun path => tables.declared.contains path then none
  let last ← key.getLast?
  let parent := header ++ key.dropLast
  if tables.isClosed parent then none
  let root ← within true (addNew last value) parent tables.root
  let closed := if isNest value then (header ++ key) :: tables.closed else tables.closed
  return { tables with root, closed, pending := passed ++ tables.pending }

/-- Defines the value of a key in a table that is written as a value. -/
def defineInline (tables : Tables) (key : Path) (value : Value) : Option Tables := do
  if tables.isClosed key then none
  let last ← key.getLast?
  let root ← within false (addNew last value) key.dropLast tables.root
  let closed := if isNest value then key :: tables.closed else tables.closed
  return { tables with root, closed }

end Tables

end Docbase.Toml
