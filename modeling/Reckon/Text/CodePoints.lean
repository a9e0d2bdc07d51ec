/-!
# `Text.CodePoints` — sets of characters, as intervals of code points

A property of characters that a standard lists is kept as ascending closed intervals and asked by
bisection.
-/

namespace Reckon.Text

/-- A set of code points: disjoint closed intervals in ascending order. -/
structure CodePoints where
  intervals : Array (Nat × Nat)

namespace CodePoints

/-- Bisection between the places `low` (inclusive) and `high` (exclusive). -/
def bisect (intervals : Array (Nat × Nat)) (n low high : Nat) : Option (Nat × Nat) :=
  if low < high then
    let middle := (low + high) / 2
    match intervals[middle]? with
    | none => none
    | some (first, last) =>
      if n < first then bisect intervals n low middle
      else if last < n then bisect intervals n (middle + 1) high
      else some (first, last)
  else none
termination_by high - low

/-- The interval that holds a character. -/
def interval? (set : CodePoints) (c : Char) : Option (Nat × Nat) :=
  bisect set.intervals c.toNat 0 set.intervals.size

/-- Membership. -/
def contains (set : CodePoints) (c : Char) : Bool :=
  (set.interval? c).isSome

end CodePoints

end Reckon.Text
