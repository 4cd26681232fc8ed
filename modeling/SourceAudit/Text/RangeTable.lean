/-!
# Tables of code point ranges

A `RangeTable` lists disjoint inclusive ranges in ascending order. `contains t n` finds the range that holds `n` by
halving, so a look-up in a table of several hundred ranges takes about ten steps.
-/

namespace SourceAudit.Text

/-- Disjoint inclusive ranges of code points, ascending. -/
abbrev RangeTable := Array (Nat × Nat)

namespace RangeTable

/-- Searches the ranges with index from `lo` up to, not including, `hi`. -/
def search (t : RangeTable) (n : Nat) : (fuel lo hi : Nat) → Bool
  | 0, _, _ => false
  | fuel + 1, lo, hi =>
    if hi ≤ lo then false
    else
      let mid := (lo + hi) / 2
      match t[mid]? with
      | none => false
      | some (first, last) =>
        if n < first then search t n fuel lo mid
        else if last < n then search t n fuel (mid + 1) hi
        else true

/-- Whether some range of the table holds `n`. -/
def contains (t : RangeTable) (n : Nat) : Bool :=
  search t n t.size 0 t.size

end RangeTable

end SourceAudit.Text
