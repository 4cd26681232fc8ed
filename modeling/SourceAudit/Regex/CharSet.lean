import SourceAudit.Regex.WordChar
import SourceAudit.Text.Blank
import SourceAudit.Text.CaseFolding

/-!
# Sets of characters

A `CharSet` describes the characters that one step of a match accepts; `CharSet.mem` decides membership.
-/

namespace SourceAudit.Regex

inductive CharSet where
  /-- The code points from `first` to `last`. -/
  | range (first last : Nat)
  /-- Word characters of every script. -/
  | word
  /-- Decimal digits of every script. -/
  | decimal
  /-- Blank characters. -/
  | blank
  /-- The code points of a table. -/
  | table (ranges : Text.RangeTable)
  | union (a b : CharSet)
  | inter (a b : CharSet)
  | diff (a b : CharSet)
  /-- The characters in exactly one of two sets. -/
  | symmDiff (a b : CharSet)
  | compl (a : CharSet)
  /-- The characters with the same case folding as some member. -/
  | folded (a : CharSet)
  /-- The characters that differ from some member at most in the case of a basic letter. -/
  | asciiFolded (a : CharSet)
  deriving DecidableEq, Repr

namespace CharSet

def mem : CharSet → Char → Bool
  | range first last, c => first ≤ c.toNat && c.toNat ≤ last
  | word, c => isWord c
  | decimal, c => isDecimal c
  | blank, c => Text.isBlank c
  | table ranges, c => ranges.contains c.toNat
  | union a b, c => a.mem c || b.mem c
  | inter a b, c => a.mem c && b.mem c
  | diff a b, c => a.mem c && !b.mem c
  | symmDiff a b, c => a.mem c != b.mem c
  | compl a, c => !a.mem c
  | folded a, c => (Text.caseOrbit c).any fun d => a.mem d
  | asciiFolded a, c => a.mem c || a.mem c.toLower || a.mem c.toUpper

def single (c : Char) : CharSet := range c.toNat c.toNat

def none : CharSet := range 1 0

def all : CharSet := range 0 0x10FFFF

def unions : List CharSet → CharSet
  | [] => none
  | [a] => a
  | a :: as => union a (unions as)

def span (first last : Char) : CharSet := range first.toNat last.toNat

def ofChars (cs : List Char) : CharSet := unions (cs.map single)

end CharSet

end SourceAudit.Regex
