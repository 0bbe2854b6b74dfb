/-!
# Tokens of a pattern

A pattern is read by characters, except that a backslash and the character after it are read as
one. A backslash at the very end is a token of its own, refused as soon as it comes up next.
-/

namespace Docbase.Pattern

/-- A unit in which a pattern is read. -/
inductive Token where
  /-- A character by itself. -/
  | plain (c : Char)
  /-- A backslash and a character. -/
  | escaped (c : Char)
  /-- A backslash with nothing after it. -/
  | dangling
  deriving DecidableEq, Repr

namespace Token

/-- The characters of a token. -/
def chars : Token → List Char
  | plain c => [c]
  | escaped c => ['\\', c]
  | dangling => ['\\']

/-- The text of a token. -/
def text (token : Token) : String :=
  String.ofList token.chars

/-- The number of characters of a token. -/
def size (token : Token) : Nat :=
  token.chars.length

/-- The tokens of a pattern. -/
def ofChars : List Char → List Token
  | [] => []
  | ['\\'] => [dangling]
  | '\\' :: c :: rest => escaped c :: ofChars rest
  | c :: rest => plain c :: ofChars rest

end Token

end Docbase.Pattern
