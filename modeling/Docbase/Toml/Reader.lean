import Docbase.Toml.Lexeme
import Docbase.Toml.Tables

/-!
# Reading TOML

A TOML text is a list of statements, one a line: a value for a key in the table declared last, or
the declaration of a table or of the next table of a list.
-/

namespace Docbase.Toml

/-- What is left after blanks, line breaks and comments, of which there are at most so many. -/
def skipSpace : Nat → List Char → Option (List Char)
  | 0, text => some text
  | bound + 1, text =>
    match skipLines text with
    | '#' :: rest => do skipSpace bound (← skipComment ('#' :: rest))
    | rest => some rest

mutual

/-- Reads a value, going no deeper than a bound allows. -/
def readValue : Nat → List Char → Option (Value × List Char)
  | 0, _ => none
  | bound + 1, text =>
    match readQuoted? text with
    | some read => read.map fun (s, rest) => (.text s, rest)
    | none =>
      match text with
      | 't' :: 'r' :: 'u' :: 'e' :: rest => some (.bool true, rest)
      | 'f' :: 'a' :: 'l' :: 's' :: 'e' :: rest => some (.bool false, rest)
      | '[' :: rest => do
        match ← skipSpace rest.length rest with
        | ']' :: rest => return (.list [], rest)
        | rest =>
          let (items, rest) ← readItems bound rest
          return (.list items, rest)
      | '\x7b' :: rest =>
        match skipBlanks rest with
        | '\x7d' :: rest => some (.object [], rest)
        | rest => do
          let (table, rest) ← readInline bound {} rest
          return (.object table, rest)
      | _ => readPlain text

/-- Reads the items of a list and its closing bracket, which a comma may come before. -/
def readItems : Nat → List Char → Option (List Value × List Char)
  | 0, _ => none
  | bound + 1, text => do
    let (item, rest) ← readValue bound text
    match ← skipSpace rest.length rest with
    | ']' :: rest => return ([item], rest)
    | ',' :: rest =>
      match ← skipSpace rest.length rest with
      | ']' :: rest => return ([item], rest)
      | rest =>
        let (items, rest) ← readItems bound rest
        return (item :: items, rest)
    | _ => none

/-- Reads the rest of a table that is written as a value, and its closing brace. -/
def readInline : Nat → Tables → List Char → Option (Document × List Char)
  | 0, _, _ => none
  | bound + 1, tables, text => do
    let (key, rest) ← readKey text.length text
    match rest with
    | '=' :: rest =>
      let (value, rest) ← readValue bound (skipBlanks rest)
      let tables ← tables.defineInline key value
      match skipBlanks rest with
      | '\x7d' :: rest => return (tables.root, rest)
      | ',' :: rest => readInline bound tables (skipBlanks rest)
      | _ => none
    | _ => none

end

/-- A text as far as it has been read: what it has defined, and the table declared last. -/
structure Draft where
  /-- What has been defined. -/
  tables : Tables := {}
  /-- The way to the table declared last. -/
  header : Path := []

/-- Reads the declaration of a table, after its opening bracket. -/
def readHeader (draft : Draft) (text : List Char) : Option (Draft × List Char) := do
  let tables := draft.tables.settle
  match text with
  | '[' :: rest =>
    let rest := skipBlanks rest
    let (path, rest) ← readKey rest.length rest
    let tables ← tables.declareNext path
    match rest with
    | ']' :: ']' :: rest => return ({ tables, header := path }, rest)
    | _ => none
  | rest =>
    let rest := skipBlanks rest
    let (path, rest) ← readKey rest.length rest
    let tables ← tables.declare path
    match rest with
    | ']' :: rest => return ({ tables, header := path }, rest)
    | _ => none

/-- Reads a value for a key. -/
def readPair (draft : Draft) (text : List Char) : Option (Draft × List Char) := do
  let (key, rest) ← readKey text.length text
  match rest with
  | '=' :: rest =>
    let rest := skipBlanks rest
    let (value, rest) ← readValue (2 * rest.length + 2) rest
    return ({ draft with tables := ← draft.tables.define draft.header key value }, rest)
  | _ => none

/-- Reads a statement, which may be empty. -/
def readStatement (draft : Draft) (text : List Char) : Option (Draft × List Char) :=
  match text with
  | [] => some (draft, text)
  | '\n' :: _ => some (draft, text)
  | '#' :: _ => some (draft, text)
  | '[' :: rest => readHeader draft rest
  | _ => readPair draft text

/-- Reads at most so many statements, each on a line of its own. -/
def readLines : Nat → Draft → List Char → Option Draft
  | 0, _, _ => none
  | bound + 1, draft, text => do
    let (draft, rest) ← readStatement draft (skipBlanks text)
    match ← skipComment (skipBlanks rest) with
    | [] => return draft
    | '\n' :: rest => readLines bound draft rest
    | _ => none

/-- A text with every carriage return before a line feed left out. -/
def withPlainBreaks : List Char → List Char
  | '\r' :: '\n' :: rest => '\n' :: withPlainBreaks rest
  | c :: rest => c :: withPlainBreaks rest
  | [] => []

/-- Reads a text; `none` if it is malformed. -/
def read? (text : String) : Option Document :=
  let chars := withPlainBreaks text.toList
  (readLines (chars.length + 1) {} chars).map fun draft => draft.tables.root

end Docbase.Toml
