/-!
# Code point sets

A set of code points is kept as its maximal ranges in increasing order.
-/

namespace Codewright.Text

/-- A set of code points: the inclusive ranges it is made of, in increasing order. -/
abbrev CodePoints := Array (Nat × Nat)

namespace CodePoints

/-- Looks for `n` in the ranges with index in `[low, low + count)`, halving the span each time. -/
def search (ranges : CodePoints) (n : Nat) (low count : Nat) : Bool :=
  if count = 0 then false
  else
    let half := count / 2
    match ranges[low + half]? with
    | none => false
    | some (first, last) =>
      if n < first then search ranges n low half
      else if last < n then search ranges n (low + half + 1) (count - half - 1)
      else true
termination_by count

/-- Whether the set holds the code point `n`. -/
def holds (ranges : CodePoints) (n : Nat) : Bool :=
  search ranges n 0 ranges.size

end CodePoints

end Codewright.Text
