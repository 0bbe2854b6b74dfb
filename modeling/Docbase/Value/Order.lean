import Docbase.Value.Equality

/-!
# Order of values

Numbers are ordered by size, texts by character codes, and lists by their first items that are
not equal, a shorter list coming before its extensions. Values of unlike types have no order, and
neither have objects.
-/

namespace Docbase

/-- A question about the order of two values. -/
inductive Ordered where
  /-- The first is smaller. -/
  | less
  /-- The first is smaller or equal. -/
  | atMost
  /-- The first is larger. -/
  | greater
  /-- The first is larger or equal. -/
  | atLeast
  deriving DecidableEq, Repr

namespace Ordered

/-- Answers the question for numbers by their places. -/
def ofPlaces (question : Ordered) (p q : Double.Place) : Bool :=
  match question with
  | less => p.lt q
  | atMost => p.lt q || p == q
  | greater => q.lt p
  | atLeast => q.lt p || p == q

/-- Answers the question for texts. -/
def ofTexts (question : Ordered) (s t : String) : Bool :=
  match question with
  | less => decide (s < t)
  | atMost => decide (s < t) || s == t
  | greater => decide (t < s)
  | atLeast => decide (t < s) || s == t

/-- Answers the question for sizes. -/
def ofSizes (question : Ordered) (m n : Nat) : Bool :=
  match question with
  | less => m < n
  | atMost => m ≤ n
  | greater => n < m
  | atLeast => n ≤ m

end Ordered

namespace Value

/-- Answers a question about numbers; what is not a number is in no order to anything. -/
def compareNumbers (question : Ordered) (a b : Value) : Bool :=
  match a.place?, b.place? with
  | some p, some q => question.ofPlaces p q
  | _, _ => false

mutual

/-- Answers a question about the order of two values, unless they have none. -/
def compare? (question : Ordered) : Value → Value → Option Bool
  | bool x, b => if b.isNumeric then some (compareNumbers question (bool x) b) else none
  | int n, b => if b.isNumeric then some (compareNumbers question (int n) b) else none
  | double x, b => if b.isNumeric then some (compareNumbers question (double x) b) else none
  | text s, text t => some (question.ofTexts s t)
  | list xs, list ys => compareItems? question xs ys
  | leaf l, leaf m => if l.kind == m.kind then some (question.ofTexts l.text m.text) else none
  | _, _ => none

/-- Answers a question about two lists by their first items that are not equal. -/
def compareItems? (question : Ordered) : List Value → List Value → Option Bool
  | [], ys => some (question.ofSizes 0 ys.length)
  | xs, [] => some (question.ofSizes xs.length 0)
  | x :: xs, y :: ys =>
    if eq x y then compareItems? question xs ys else compare? question x y

end

end Value

end Docbase
