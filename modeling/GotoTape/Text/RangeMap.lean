/-!
# Sorted range tables

Lookups in the tables of this folder: a table of closed ranges of code points, sorted and
disjoint, perhaps each with a value, and a table of pairs sorted by their first code point. A
lookup halves the part of the table still in question, so it takes a logarithmic number of
steps.
-/

namespace GotoTape
namespace Text

/-- Whether a sorted table of disjoint closed ranges holds `n`, by halving `[lo, hi)`. -/
def inSortedRanges (table : Array (Nat × Nat)) (n lo hi : Nat) : Bool :=
  if _h : lo < hi then
    let mid := (lo + hi) / 2
    match table[mid]? with
    | some (a, b) =>
      if n < a then inSortedRanges table n lo mid
      else if b < n then inSortedRanges table n (mid + 1) hi
      else true
    | none => false
  else false
termination_by hi - lo
decreasing_by all_goals omega

/-- The value of the range of a sorted table of disjoint closed ranges that holds `n`, found by
halving the interval `[lo, hi)` of entries still in question. -/
def findRange {α : Type} (table : Array (Nat × Nat × α)) (n : Nat) (lo hi : Nat) : Option α :=
  if _h : lo < hi then
    let mid := (lo + hi) / 2
    match table[mid]? with
    | some (a, b, v) =>
      if n < a then findRange table n lo mid
      else if b < n then findRange table n (mid + 1) hi
      else some v
    | none => none
  else none
termination_by hi - lo
decreasing_by all_goals omega

/-- The value of the range of a sorted table of disjoint closed ranges that holds `n`. -/
def lookupRange {α : Type} (table : Array (Nat × Nat × α)) (n : Nat) : Option α :=
  findRange table n 0 table.size

/-- The entry of the sorted pair table for `n`, by halving `[lo, hi)`. -/
def findPair (table : Array (Nat × Nat)) (n lo hi : Nat) : Option Nat :=
  if _h : lo < hi then
    let mid := (lo + hi) / 2
    match table[mid]? with
    | some (a, b) =>
      if n < a then findPair table n lo mid
      else if a < n then findPair table n (mid + 1) hi
      else some b
    | none => none
  else none
termination_by hi - lo
decreasing_by all_goals omega

end Text
end GotoTape
