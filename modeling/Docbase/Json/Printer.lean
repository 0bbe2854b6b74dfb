import Docbase.Value.Shown

/-!
# Writing JSON

Values are written on one line, or with every item on a line of its own. Characters beyond the
printable ones of ASCII are written by their code. What JSON has no notation for is written as its
text.
-/

namespace Docbase.Json

/-- A code of sixteen bits. -/
def writtenUnit (unit : Nat) : List Char :=
  '\\' :: 'u' :: Text.hexPadded 4 unit

/-- A character within quotes. -/
def writtenChar (c : Char) : List Char :=
  match [('"', '"'), ('\\', '\\'), ('\n', 'n'), ('\r', 'r'), ('\t', 't'), ('\x08', 'b'),
      ('\x0c', 'f')].lookup c with
  | some letter => ['\\', letter]
  | none =>
    if ' ' ≤ c && c ≤ '~' then [c]
    else if c.toNat < 0x10000 then writtenUnit c.toNat
    else
      let above := c.toNat - 0x10000
      writtenUnit (0xD800 + above / 0x400) ++ writtenUnit (0xDC00 + above % 0x400)

/-- A text in quotes. -/
def writtenText (s : String) : String :=
  String.ofList ('"' :: s.toList.flatMap writtenChar ++ ['"'])

/-- A double. -/
def writtenDouble (x : Double) : String :=
  match x with
  | .nan => "NaN"
  | .infinite negative => if negative then "-Infinity" else "Infinity"
  | x => x.text

/-- How the parts of lists and objects are set apart. -/
structure Layout where
  /-- What stands after the opening bracket and before each further item, given the depth. -/
  opening : Nat → String
  /-- What stands between items, given the depth. -/
  between : Nat → String
  /-- What stands before the closing bracket, given the depth. -/
  closing : Nat → String

namespace Layout

/-- All on one line. -/
def line : Layout :=
  ⟨fun _ => "", fun _ => ", ", fun _ => ""⟩

/-- A line break and the indentation of a depth. -/
def newLine (depth : Nat) : String :=
  String.ofList ('\n' :: List.replicate (2 * depth) ' ')

/-- Every item on a line of its own, indented by two for every depth. -/
def indented : Layout :=
  ⟨fun depth => newLine (depth + 1), fun depth => "," ++ newLine (depth + 1), newLine⟩

/-- Brackets around items at a depth; without items nothing stands between them. -/
def enclose (layout : Layout) (depth : Nat) (left right : String) (items : List String) : String :=
  if items.isEmpty then left ++ right
  else left ++ layout.opening depth ++ (layout.between depth).intercalate items
    ++ layout.closing depth ++ right

mutual

/-- A value at a depth. -/
def write (layout : Layout) (depth : Nat) : Value → String
  | .null => "null"
  | .bool b => if b then "true" else "false"
  | .int n => Value.intText n
  | .double x => writtenDouble x
  | .text s => writtenText s
  | .list items => layout.enclose depth "[" "]" (writeItems layout (depth + 1) items)
  | .object fields => layout.enclose depth "\x7b" "\x7d" (writeFields layout (depth + 1) fields)
  | .pattern p => writtenText p.shown
  | .leaf l => writtenText l.text

/-- The items of a list. -/
def writeItems (layout : Layout) (depth : Nat) : List Value → List String
  | [] => []
  | item :: rest => write layout depth item :: writeItems layout depth rest

/-- The fields of an object. -/
def writeFields (layout : Layout) (depth : Nat) : List (String × Value) → List String
  | [] => []
  | (key, value) :: rest =>
    (writtenText key ++ ": " ++ write layout depth value) :: writeFields layout depth rest

end

end Layout

/-- A value on one line. -/
def compact (value : Value) : String :=
  Layout.line.write 0 value

/-- A value with every item on a line of its own. -/
def pretty (value : Value) : String :=
  Layout.indented.write 0 value

end Docbase.Json
