import Docbase.Text.Case

/-!
# Markup

Texts with tags in square brackets, which open and close styles. A tag begins with a small letter
or one of three signs; brackets around anything else are text, and so is a tag after a backslash.
What is shown on a screen without styles is the text alone.
-/

namespace Docbase.Markup

/-- A part of a text with tags. -/
inductive Piece where
  /-- Text to be shown. -/
  | text (chars : List Char)
  /-- A tag that opens a style. -/
  | opening (style : List Char)
  /-- A tag that closes a style, or the last one when it has no name. -/
  | closing (style : List Char)

/-- Whether a tag may begin with a character. -/
def startsTag (c : Char) : Bool :=
  ('a' ≤ c && c ≤ 'z') || c == '#' || c == '/' || c == '@'

/-- The inside of a tag at the front of a text, and what follows the tag. -/
def tag? : List Char → Option (List Char × List Char)
  | '[' :: c :: rest =>
    let inside := rest.takeWhile fun c => c != '[' && c != ']'
    match rest.drop inside.length with
    | ']' :: after => if startsTag c then some (c :: inside, after) else none
    | _ => none
  | _ => none

/-- The name of a style, in which case makes no difference. -/
def styleName (chars : List Char) : List Char :=
  (Text.lower (String.ofList (Text.trim chars))).toList

/-- The tag with a given inside. -/
def tagPiece (inside : List Char) : Piece :=
  match inside.takeWhile (· != '=') with
  | '/' :: name => .closing (styleName name)
  | name => .opening (styleName name)

/-- Text without the backslashes before opening brackets. -/
def unescaped : List Char → List Char
  | '\\' :: '[' :: rest => '[' :: unescaped rest
  | c :: rest => c :: unescaped rest
  | [] => []

/-- A tag after some backslashes: every two of them are one backslash of text, and one that is left
over makes the tag text. -/
def escapedTag (slashes : Nat) (inside : List Char) : List Piece :=
  let literal := Piece.text (List.replicate (slashes / 2) '\\')
  if slashes % 2 = 1 then [literal, .text ('[' :: inside ++ [']'])] else [literal, tagPiece inside]

/-- Takes a text apart, in at most so many steps; `before` is the text since the last tag,
reversed. -/
def piecesFrom : Nat → List Char → List Char → List Piece
  | 0, before, rest => [.text (unescaped (before.reverse ++ rest))]
  | _, before, [] => [.text (unescaped before.reverse)]
  | bound + 1, before, c :: rest =>
    let slashes := (c :: rest).takeWhile (· == '\\')
    match tag? ((c :: rest).drop slashes.length) with
    | some (inside, after) =>
      .text (unescaped before.reverse) :: escapedTag slashes.length inside
        ++ piecesFrom bound [] after
    | none =>
      if slashes.isEmpty then piecesFrom bound (c :: before) rest
      else piecesFrom bound (slashes ++ before) ((c :: rest).drop slashes.length)

/-- The parts of a text with tags. -/
def pieces (text : List Char) : List Piece :=
  piecesFrom (text.length + 1) [] text

/-- What is shown of parts while some styles are open, the last one first; nothing when a tag closes
a style that is not open. -/
def shown? : List (List Char) → List Piece → Option (List Char)
  | _, [] => some []
  | styles, .text chars :: rest => (shown? styles rest).map (chars ++ ·)
  | styles, .opening style :: rest => shown? (style :: styles) rest
  | styles, .closing style :: rest =>
    if style.isEmpty then
      if styles.isEmpty then none else shown? (styles.drop 1) rest
    else if styles.contains style then shown? (styles.erase style) rest
    else none

/-- Whether a character is left out on a screen. -/
def isControl (c : Char) : Bool :=
  ['\x07', '\x08', '\x0b', '\x0c', '\x0d'].contains c

/-- The width of a tab. -/
def tabWidth : Nat := 8

/-- A text with spaces for tabs, from a column on. -/
def withoutTabs (column : Nat) : List Char → List Char
  | [] => []
  | c :: rest =>
    if c == '\t' then
      let width := tabWidth - column % tabWidth
      List.replicate width ' ' ++ withoutTabs (column + width) rest
    else if c == '\n' then c :: withoutTabs 0 rest
    else c :: withoutTabs (column + 1) rest

/-- What is shown of a text with tags; nothing when a tag closes a style that is not open. -/
def plain? (text : String) : Option String :=
  (shown? [] (pieces text.toList)).map fun chars =>
    String.ofList (withoutTabs 0 (chars.filter (!isControl ·)))

end Docbase.Markup
