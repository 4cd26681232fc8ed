import SourceAudit.Regex.CharSet

/-!
# Sets of characters as ranges

`CodeRanges` lists the code points of a set as ascending ranges, none of which touches the next, and has the operations
on sets. `CharSet.ranges` : the ranges of a set of characters.

Surrogates are no characters. The character after `\u{D7FF}` is `\u{E000}`, but the two do not touch: a set may hold
them as ends of two ranges. `CodeRanges.negate` takes the gap between such ranges from its ends, so both stay in the
complement; `CharSet.negated` is the complement with them.
-/

namespace SourceAudit.Regex

/-- Ascending ranges of code points, none of which touches the next. -/
abbrev CodeRanges := List (Nat × Nat)

namespace CodeRanges

/-- The code point after a character. -/
def next (n : Nat) : Nat := if n = 0xD7FF then 0xE000 else n + 1

/-- The code point before a character. -/
def previous (n : Nat) : Nat := if n = 0xE000 then 0xD7FF else n - 1

def last : Nat := 0x10FFFF

/-- The range between two code points, in either order. -/
def between (a b : Nat) : Nat × Nat := if a ≤ b then (a, b) else (b, a)

/-- Joins ranges that touch; `first` and `last` are the ends of the range being joined. -/
def joinFrom (first last : Nat) : CodeRanges → CodeRanges
  | [] => [(first, last)]
  | (a, b) :: rs => if a ≤ last + 1 then joinFrom first (max last b) rs else (first, last) :: joinFrom a b rs

/-- Joins the ranges that touch in a list that ascends. -/
def join : CodeRanges → CodeRanges
  | [] => []
  | (a, b) :: rs => joinFrom a b rs

/-- Ranges in any order, as a set. -/
def ofRanges (rs : List (Nat × Nat)) : CodeRanges := join (rs.mergeSort fun x y => x.1 ≤ y.1)

def named (tables : List NamedTable) (names : List String) : CodeRanges :=
  ofRanges ((tables.filter fun t => t.names.any names.contains).flatMap (·.table.toList))

def scalars : CodeRanges := [(0, 0xD7FF), (0xE000, last)]

/-- The members of either set. -/
def union (a b : CodeRanges) : CodeRanges := join (a.merge b fun x y => x.1 ≤ y.1)

/-- The gaps between the ranges of a set, after a range that ends at `before`. -/
def gapsAfter (before : Nat) : CodeRanges → CodeRanges
  | [] => if before < last then [between (next before) last] else []
  | (a, b) :: rs => between (next before) (previous a) :: gapsAfter b rs

def negate : CodeRanges → CodeRanges
  | [] => [(0, last)]
  | (a, b) :: rs => (if 0 < a then [between 0 (previous a)] else []) ++ gapsAfter b rs

/-- The members of both sets; each step drops a range. -/
def interWith : (fuel : Nat) → CodeRanges → CodeRanges → CodeRanges
  | fuel + 1, (a, b) :: xs, (c, d) :: ys =>
    let rest := if b < d then interWith fuel xs ((c, d) :: ys) else interWith fuel ((a, b) :: xs) ys
    if max a c ≤ min b d then (max a c, min b d) :: rest else rest
  | _, _, _ => []

/-- The members of both sets. -/
def inter (a b : CodeRanges) : CodeRanges := interWith (a.length + b.length) a b

/-- The members of `a` that are not in `b`; each step drops a range. -/
def diffWith : (fuel : Nat) → CodeRanges → CodeRanges → CodeRanges
  | fuel + 1, (a, b) :: xs, (c, d) :: ys =>
    if b < c then (a, b) :: diffWith fuel xs ((c, d) :: ys)
    else if d < a then diffWith fuel ((a, b) :: xs) ys
    else
      let below := if a < c then [(a, previous c)] else []
      below ++ if d < b then diffWith fuel ((next d, b) :: xs) ys else diffWith fuel xs ((c, d) :: ys)
  | _, xs, _ => xs

/-- The members of `a` that are not in `b`. -/
def diff (a b : CodeRanges) : CodeRanges := diffWith (a.length + b.length) a b

/-- The members of exactly one of two sets. -/
def symmDiff (a b : CodeRanges) : CodeRanges := (a.union b).diff (a.inter b)

/-- Moves the part of a set that lies between `first` and `last`. -/
def shiftPart (first last : Nat) (move : Nat → Nat) (a : CodeRanges) : CodeRanges :=
  (a.inter [(first, last)]).map fun r => (move r.1, move r.2)

/-- Adds the other case of the basic letters of a set. -/
def foldAscii (a : CodeRanges) : CodeRanges :=
  (a.union (a.shiftPart 0x41 0x5A (· + 32))).union (a.shiftPart 0x61 0x7A (· - 32))

/-- Adds the characters with the same case folding as some member. -/
def foldCase (a : CodeRanges) : CodeRanges :=
  let table := a.toArray
  let orbits := Text.caseOrbits.filter fun orbit => orbit.any (Text.RangeTable.contains table)
  a.union (ofRanges (orbits.flatten.map fun n => (n, n)))

/-- Whether the set holds the characters on both sides of the surrogates, at the ends of two ranges. -/
def meetAtGap (a : CodeRanges) : Bool := a.any (·.2 == 0xD7FF) && a.any (·.1 == 0xE000)

end CodeRanges

namespace CharSet

def ranges : CharSet → CodeRanges
  | range first last => if first ≤ last then [(first, last)] else []
  | word => wordTable.toList
  | decimal => decimalTable.toList
  | blank =>
    [(9, 13), (0x20, 0x20), (0x85, 0x85), (0xA0, 0xA0), (0x1680, 0x1680), (0x2000, 0x200A), (0x2028, 0x2029),
      (0x202F, 0x202F), (0x205F, 0x205F), (0x3000, 0x3000)]
  | table t => t.toList
  | union a b => a.ranges.union b.ranges
  | inter a b => a.ranges.inter b.ranges
  | diff a b => a.ranges.diff b.ranges
  | symmDiff a b => a.ranges.symmDiff b.ranges
  | compl a => a.ranges.negate
  | folded a => a.ranges.foldCase
  | asciiFolded a => a.ranges.foldAscii

/-- The complement of a set, where the surrogates count as a gap to be filled from its ends. -/
def negated (a : CharSet) : CharSet :=
  if a.ranges.meetAtGap then union (compl a) (ofChars [Char.ofNat 0xD7FF, Char.ofNat 0xE000]) else compl a

end CharSet

end SourceAudit.Regex
