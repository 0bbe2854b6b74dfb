import Docbase.Document
import Docbase.Value.Order

/-!
# Paging

A page of a list of documents: an offset, then a limit. What is null, zero or negative has no
effect.
-/

namespace Docbase

/-- Reads an offset or a limit. Values that are not ordered to numbers are refused, and so are
positive numbers that are not whole. -/
def readBound (bound : Value) : Except Fault (Option Nat) :=
  if !bound.isTruthy then .ok none
  else match Value.compare? .greater bound (.int 0) with
    | none => .error .wrongType
    | some false => .ok none
    | some true =>
      match bound.asInt? with
      | some n => .ok (some n.toNat)
      | none => .error .wrongType

/-- A list from an offset on, up to a limit. -/
def page {α : Type} (docs : List α) (offset limit : Option Nat) : List α :=
  let rest := match offset with
    | some n => docs.drop n
    | none => docs
  match limit with
  | some n => rest.take n
  | none => rest

/-- A page of documents, its bounds still to be read. -/
def paginate (docs : List Document) (offset limit : Value) : Except Fault (List Document) := do
  let offset ← readBound offset
  let limit ← readBound limit
  return page docs offset limit

end Docbase
