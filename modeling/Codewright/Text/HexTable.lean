import Codewright.Text.Blank
import Codewright.Text.CodePoints

/-!
# Tables of code points

Long tables are written as rows of hexadecimal numbers: `A-B` for the numbers from `A` to `B`, and
in tables with keys a key before the items that belong to it, up to a comma.
-/

namespace Codewright.Text

/-- The number that digits in upper case stand for. -/
def hexNumber (cs : List Char) : Nat :=
  cs.foldl (fun n c => 16 * n + (c.toNat - if c.isDigit then 0x30 else 0x37)) 0

/-- The numbers in an item, with dashes between them. -/
def hexNumbers (cs : List Char) : List Nat :=
  (pieces (· = '-') cs).map hexNumber

/-- The items of a row, with spaces between them. -/
def rowItems (cs : List Char) : List (List Char) :=
  pieces (· = ' ') cs

/-- The keys in a table with their items. -/
def keyedItems (rows : List String) : List (Nat × List (List Char)) :=
  rows.flatMap fun row => (pieces (· = ',') row.toList).map fun group =>
    match rowItems group with
    | [] => (0, [])
    | key :: items => (hexNumber key, items)

/-- The range that an item stands for. -/
def rangeOf : List Nat → Nat × Nat
  | [first, last] => (first, last)
  | numbers => (numbers.headD 0, numbers.headD 0)

/-- The set of the code points in a table without keys. -/
def CodePoints.ofRows (rows : List String) : CodePoints :=
  (rows.flatMap fun row => (rowItems row.toList).map fun item => rangeOf (hexNumbers item)).toArray

/-- Values by ranges of numbers, which do not overlap: the first and the last number of each range,
in increasing order, and the value. -/
abbrev RangeMap (α : Type) := Array (Nat × Nat × α)

namespace RangeMap

variable {α : Type}

/-- Looks for `n` in the ranges with index in `[low, low + count)`, halving the span each time. -/
def search (ranges : RangeMap α) (n : Nat) (low count : Nat) : Option (Nat × α) :=
  if count = 0 then none
  else
    let half := count / 2
    match ranges[low + half]? with
    | none => none
    | some (first, last, value) =>
      if n < first then search ranges n low half
      else if last < n then search ranges n (low + half + 1) (count - half - 1)
      else some (first, value)
termination_by count

/-- The value for `n`, with the first number of the range that it is in. -/
def find? (ranges : RangeMap α) (n : Nat) : Option (Nat × α) :=
  search ranges n 0 ranges.size

/-- Brings ranges into order. -/
def ofList (ranges : List (Nat × Nat × α)) : RangeMap α :=
  (ranges.mergeSort fun a b => a.1 ≤ b.1).toArray

end RangeMap

end Codewright.Text
