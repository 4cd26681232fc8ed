import SourceAudit.Regex.Basic
import SourceAudit.Regex.ByteRanges

/-!
# The shape of a pattern

A `Shape` is a pattern in the form in which it is turned into an automaton. Its constructors are used through functions
that keep it small:

* `Shape.chars`, `Shape.bytes` : a set with one member is a literal;
* `Shape.repeated` : what only matches the empty text is repeated at most once;
* `Shape.concat` : sequences are flat, and literals next to each other are one;
* `Shape.alternation` : alternatives are flat, alternatives that are all sets are one set, and a common start of
  sequences comes before the alternatives.

`Shape.minLength` and `Shape.maxLength` bound the bytes of a match, where that is known.
-/

namespace SourceAudit.Regex

/-- A pattern as a tree. -/
inductive Shape where
  | empty
  /-- Bytes that stand for themselves. -/
  | literal (bytes : List Nat)
  /-- One character of a set that has no member or more than one. -/
  | set (ranges : CodeRanges)
  /-- One byte of such a set, which need not be a character. -/
  | byteSet (ranges : CodeRanges)
  | look (assertion : Look)
  | rep (a : Shape) (min : Nat) (max : Option Nat) (greedy : Bool)
  | group (number : Nat) (a : Shape)
  | seq (as : List Shape)
  | alt (as : List Shape)
  deriving BEq, Inhabited

namespace Shape

/-! ## Lengths -/

mutual

def size : Shape → Nat
  | rep a _ _ _ | group _ a => a.size + 1
  | seq as | alt as => sizeSum as + 1
  | _ => 1

/-- The number of nodes of several patterns. -/
def sizeSum : List Shape → Nat
  | [] => 0
  | a :: as => a.size + sizeSum as

end

mutual

/-- The least number of bytes of a match, if there can be one. -/
def minLength : Shape → Option Nat
  | empty | look _ => some 0
  | literal bytes => some bytes.length
  | set ranges => ranges.head?.map fun r => (utf8Bytes r.1).length
  | byteSet ranges => ranges.head?.map fun _ => 1
  | rep a min _ _ => a.minLength.map (· * min)
  | group _ a => a.minLength
  | seq as => minLengthSum as
  | alt as => minLengthLeast as

def minLengthSum : List Shape → Option Nat
  | [] => some 0
  | a :: as => do return (← a.minLength) + (← minLengthSum as)

def minLengthLeast : List Shape → Option Nat
  | [] => none
  | [a] => a.minLength
  | a :: as => do return min (← a.minLength) (← minLengthLeast as)

end

mutual

/-- The greatest number of bytes of a match, if there is a bound. -/
def maxLength : Shape → Option Nat
  | empty | look _ => some 0
  | literal bytes => some bytes.length
  | set ranges => ranges.getLast?.map fun r => (utf8Bytes r.2).length
  | byteSet ranges => ranges.getLast?.map fun _ => 1
  | rep a _ max _ => do return (← a.maxLength) * (← max)
  | group _ a => a.maxLength
  | seq as => maxLengthSum as
  | alt as => maxLengthMost as

def maxLengthSum : List Shape → Option Nat
  | [] => some 0
  | a :: as => do return (← a.maxLength) + (← maxLengthSum as)

def maxLengthMost : List Shape → Option Nat
  | [] => none
  | [a] => a.maxLength
  | a :: as => do return max (← a.maxLength) (← maxLengthMost as)

end

/-! ## Anchors -/

mutual

/-- Whether every match is known to start where an assertion holds. -/
def startsWith (l : Look) : Shape → Bool
  | look m => m == l
  | rep a min _ _ => min != 0 && a.startsWith l
  | group _ a => a.startsWith l
  | seq as => firstStartsWith l as
  | alt as => allStartWith l as
  | _ => false

/-- Whether one of the elements of a sequence that stand before every byte of it starts where the assertion holds. -/
def firstStartsWith (l : Look) : List Shape → Bool
  | [] => false
  | a :: as => a.startsWith l || (a.maxLength == some 0 && firstStartsWith l as)

/-- Whether all alternatives start where the assertion holds. -/
def allStartWith (l : Look) : List Shape → Bool
  | [] => true
  | a :: as => a.startsWith l && allStartWith l as

end

mutual

/-- Whether every match is known to end where an assertion holds. -/
def endsWith (l : Look) : Shape → Bool
  | look m => m == l
  | rep a min _ _ => min != 0 && a.endsWith l
  | group _ a => a.endsWith l
  | seq as => (lastEndsWith l as).1
  | alt as => allEndWith l as
  | _ => false

/-- Whether one of the elements of a sequence that stand after every byte of it ends where the assertion holds, and
whether all elements stand there. -/
def lastEndsWith (l : Look) : List Shape → Bool × Bool
  | [] => (false, true)
  | a :: as =>
    let (found, bare) := lastEndsWith l as
    (found || (bare && a.endsWith l), bare && a.maxLength == some 0)

/-- Whether all alternatives end where the assertion holds. -/
def allEndWith (l : Look) : List Shape → Bool
  | [] => true
  | a :: as => a.endsWith l && allEndWith l as

end

/-! ## Construction -/

def chars (ranges : CodeRanges) : Shape :=
  match ranges with
  | [(a, b)] => if a = b then literal (utf8Bytes a) else set ranges
  | _ => set ranges

def bytes (ranges : CodeRanges) : Shape :=
  match ranges with
  | [(a, b)] => if a = b then literal [a] else byteSet ranges
  | _ => byteSet ranges

def repeated (a : Shape) (min : Nat) (max : Option Nat) (greedy : Bool) : Shape :=
  let vacuous := a.maxLength == some 0
  let min := if vacuous then Nat.min min 1 else min
  let max := if vacuous then some (Nat.min (max.getD 1) 1) else max
  if min = 0 && max == some 0 then empty
  else if min = 1 && max == some 1 then a
  else rep a min max greedy

def elements : Shape → List Shape
  | seq as => as
  | empty => []
  | a => [a]

/-- Makes one literal of literals next to each other. -/
def mergeLiterals : List Shape → List Shape
  | [] => []
  | a :: as =>
    match a, mergeLiterals as with
    | literal xs, literal ys :: rest => literal (xs ++ ys) :: rest
    | a, rest => a :: rest

def concat (as : List Shape) : Shape :=
  match mergeLiterals (as.flatMap elements) with
  | [] => empty
  | [a] => a
  | as => seq as

def branches : Shape → List Shape
  | alt as => as
  | a => [a]

/-- The character that a literal stands for, as a range, if it stands for one. -/
def literalChar? : Shape → Option (Nat × Nat)
  | literal [a] => some (a, a)
  | literal [a, b] => if 0xC0 ≤ a && a < 0xE0 then point ((a - 0xC0) * 64 + (b - 0x80)) else none
  | literal [a, b, c] =>
    if 0xE0 ≤ a && a < 0xF0 then point ((a - 0xE0) * 4096 + (b - 0x80) * 64 + (c - 0x80)) else none
  | literal [a, b, c, d] =>
    if 0xF0 ≤ a then point ((a - 0xF0) * 262144 + (b - 0x80) * 4096 + (c - 0x80) * 64 + (d - 0x80)) else none
  | _ => none
where
  point (n : Nat) : Option (Nat × Nat) := some (n, n)

/-- Whether all members of a set are characters of one byte. -/
def isAscii (ranges : CodeRanges) : Bool := ranges.all (·.2 < 0x80)

def setRanges? : Shape → Option CodeRanges
  | set ranges => some ranges
  | byteSet ranges => if isAscii ranges then some ranges else none
  | _ => none

def byteSetRanges? : Shape → Option CodeRanges
  | byteSet ranges => some ranges
  | set ranges => if isAscii ranges then some ranges else none
  | _ => none

/-- One set for alternatives that are all characters, all sets of characters or all sets of bytes. -/
def singleSet? (as : List Shape) : Option Shape :=
  match as.mapM literalChar? with
  | some points => some (chars (.ofRanges points))
  | none =>
    match as.mapM setRanges? with
    | some sets => some (chars (.ofRanges sets.flatten))
    | none => (as.mapM byteSetRanges?).map fun sets => bytes (.ofRanges sets.flatten)

/-- The elements that two sequences start with. -/
def commonStart : List Shape → List Shape → List Shape
  | a :: as, b :: bs => if a == b then a :: commonStart as bs else []
  | _, _ => []

def seqElements? : Shape → Option (List Shape)
  | seq as => some as
  | _ => none

def sharedStart? (as : List Shape) : Option (List Shape) :=
  match as.mapM seqElements? with
  | some (first :: rest) =>
    match rest.foldl commonStart first with
    | [] => none
    | shared => some shared
  | _ => none

/-- Either of some patterns. Each round takes the common start out of shorter and shorter sequences; `fuel` bounds their
number. -/
def alternationWith : (fuel : Nat) → List Shape → Shape
  | 0, as => alt as
  | fuel + 1, as =>
    match as.flatMap branches with
    | [] => set []
    | [a] => a
    | as =>
      match singleSet? as with
      | some a => a
      | none =>
        match sharedStart? as with
        | some shared =>
          concat (shared ++ [alternationWith fuel (as.map fun a => concat (a.elements.drop shared.length))])
        | none => alt as

def alternation (as : List Shape) : Shape := alternationWith (sizeSum as + 1) as

end Shape

end SourceAudit.Regex
