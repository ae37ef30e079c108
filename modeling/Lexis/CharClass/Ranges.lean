/-!
# Sets of code points as sorted ranges

A property of code points is stored as an array of inclusive ranges in increasing order and looked
up by halving.
-/

namespace Lexis.CharClass

/-- Whether one of the ranges from index `lo` up to, but not including, index `hi` holds `n`. -/
def searchRanges (ranges : Array (Nat × Nat)) (n lo hi : Nat) : Bool :=
  if lo < hi then
    let mid := (lo + hi) / 2
    match ranges[mid]? with
    | some (first, last) =>
      if n < first then searchRanges ranges n lo mid
      else if last < n then searchRanges ranges n (mid + 1) hi
      else true
    | none => false
  else false
termination_by hi - lo

/-- Whether one of the sorted ranges holds the code point. -/
def inRanges (ranges : Array (Nat × Nat)) (c : Char) : Bool :=
  searchRanges ranges c.toNat 0 ranges.size

end Lexis.CharClass
