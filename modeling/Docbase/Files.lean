import Docbase.Keyed
import Docbase.Text.Case

/-!
# Files

The files of a directory as texts under their paths, and the part of paths that matters for
finding them: slashes and single dots that change nothing are left out, and the suffix of a name
tells what is in the file.
-/

namespace Docbase

/-- The texts of files under their paths. -/
abbrev Files := Keyed String

namespace Files

/-- The names that a path is made of. -/
def names (path : String) : List (List Char) :=
  (path.toList.splitOn '/').filter fun name => name != [] && name != ['.']

/-- The slashes that a path begins with: one, or exactly two. -/
def rootOf (path : String) : String :=
  match path.toList.takeWhile (· == '/') with
  | [] => ""
  | ['/', '/'] => "//"
  | _ => "/"

/-- A path without the slashes and dots that change nothing. -/
def normal (path : String) : String :=
  let text := rootOf path ++ "/".intercalate ((names path).map String.ofList)
  if text = "" then "." else text

/-- The last name of a path from its last dot on, if something stands on either side of it. -/
def suffix (path : String) : String :=
  let name := ((names path).getLast?).getD []
  let after := name.reverse.takeWhile (· != '.')
  if after.isEmpty || name.length ≤ after.length + 1 then ""
  else String.ofList ('.' :: after.reverse)

/-- The characters of a text with a line feed for every line break. -/
def plainBreaks : List Char → List Char
  | '\r' :: '\n' :: rest => '\n' :: plainBreaks rest
  | '\r' :: rest => '\n' :: plainBreaks rest
  | c :: rest => c :: plainBreaks rest
  | [] => []

/-- A text with a line feed for every line break. -/
def withPlainBreaks (text : String) : String :=
  String.ofList (plainBreaks text.toList)

/-- What is found under a path. -/
inductive Found where
  /-- Nothing. -/
  | nothing
  /-- Nothing, since the path goes on after a file. -/
  | blocked
  /-- A directory. -/
  | directory
  /-- A file with its text. -/
  | file (text : String)

/-- Whether a path leads through another one, or to it. -/
def leadsThrough (path other : String) : Bool :=
  rootOf other == rootOf path && (names other).isPrefixOf (names path)

/-- Looks up a path. -/
def find (files : Files) (path : String) : Found :=
  match files.find? fun entry => normal entry.1 == normal path with
  | some entry => .file entry.2
  | none =>
    if names path == [] || files.any (fun entry => leadsThrough entry.1 path) then .directory
    else if files.any fun entry => leadsThrough path entry.1 then .blocked
    else .nothing

end Files

end Docbase
