import SourceAudit.Regex.CharSet

/-!
# Regular expressions

A `Regex` is built from character sets, assertions about the neighbouring characters (`Look`), marks that remember a
position, sequences, ordered alternatives and repetitions. Group number `i` of a pattern stands between the marks
`2 * i` and `2 * i + 1`.
-/

namespace SourceAudit

namespace Regex

/-- An assertion about the characters before and after a position. Word assertions are about the word characters of
every script, or only about those of ASCII. -/
inductive Look where
  | startText
  | endText
  | startLine
  | endLine
  | startLineCrlf
  | endLineCrlf
  | wordBoundary (ascii : Bool)
  | notWordBoundary (ascii : Bool)
  | wordStart (ascii : Bool)
  | wordEnd (ascii : Bool)
  | wordStartHalf (ascii : Bool)
  | wordEndHalf (ascii : Bool)
  deriving DecidableEq, Repr

namespace Look

def isWordAt (ascii : Bool) : Option Char → Bool
  | some c => if ascii then c.isAlphanum || c == '_' else Regex.isWord c
  | none => false

/-- Whether an assertion holds between two neighbours. -/
def holds (before after : Option Char) : Look → Bool
  | startText => before.isNone
  | endText => after.isNone
  | startLine => before.isNone || before == some '\n'
  | endLine => after.isNone || after == some '\n'
  | startLineCrlf =>
    before.isNone || before == some '\n' || (before == some '\r' && after != some '\n')
  | endLineCrlf =>
    after.isNone || after == some '\r' || (after == some '\n' && before != some '\r')
  | wordBoundary ascii => isWordAt ascii before != isWordAt ascii after
  | notWordBoundary ascii => isWordAt ascii before == isWordAt ascii after
  | wordStart ascii => !isWordAt ascii before && isWordAt ascii after
  | wordEnd ascii => isWordAt ascii before && !isWordAt ascii after
  | wordStartHalf ascii => !isWordAt ascii before
  | wordEndHalf ascii => !isWordAt ascii after

end Look

end Regex

/-- A regular expression. -/
inductive Regex where
  /-- The empty text. -/
  | empty
  /-- One character of a set. -/
  | set (chars : Regex.CharSet)
  /-- The empty text where an assertion holds. -/
  | look (assertion : Regex.Look)
  /-- The empty text; remembers the position. -/
  | mark (slot : Nat)
  /-- One after the other. -/
  | seq (a b : Regex)
  /-- Either; the first is preferred. -/
  | alt (a b : Regex)
  /-- At least `min` and at most `max` times; as often as possible if `greedy`, else as seldom as possible. -/
  | rep (a : Regex) (min : Nat) (max : Option Nat) (greedy : Bool)
  /-- Any number of further times, after a round that took a character. A round that takes nothing ends here. -/
  | again (a : Regex) (greedy : Bool)
  deriving DecidableEq, Repr, Inhabited

namespace Regex

/-- A sequence, without an empty first part. -/
def andThen : Regex → Regex → Regex
  | empty, b => b
  | a, b => seq a b

def seqs : List Regex → Regex
  | [] => empty
  | [a] => a
  | a :: as => seq a (seqs as)

def alts : List Regex → Regex
  | [] => empty
  | [a] => a
  | a :: as => alt a (alts as)

def literal (cs : List Char) : Regex := seqs (cs.map fun c => set (.single c))

def group (i : Nat) (a : Regex) : Regex := seq (mark (2 * i)) (seq a (mark (2 * i + 1)))

/-- Any number of times, as often as possible. -/
def star (a : Regex) : Regex := rep a 0 none true

/-- At least once, as often as possible. -/
def plus (a : Regex) : Regex := rep a 1 none true

/-- At most once, preferably once. -/
def opt (a : Regex) : Regex := rep a 0 (some 1) true

end Regex

end SourceAudit
