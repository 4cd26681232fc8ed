import SourceAudit.Regex.Bracket
import SourceAudit.Regex.Footprint
import SourceAudit.Regex.Match
import SourceAudit.Text.Numeric

/-!
# Reading regular expressions

`Regex.parse` reads the text of a regular expression.

The reader keeps the groups that are open, innermost first. A group holds the items of the alternative being read and
the alternatives already finished, newest first. Switches such as `(?i)` hold to the end of the group around them.
-/

namespace SourceAudit.Regex

/-- Something read: its meaning, its shape, how deep it is nested, and whether a repetition may follow it. -/
structure Piece where
  regex : Regex
  shape : Shape
  depth : Nat := 0
  repeatable : Bool := true

namespace Piece

def nothing : Piece := { regex := .empty, shape := .empty }

def ofSet (s : CharSet) (depth : Nat := 0) : Piece := { regex := .set s, shape := .chars s.ranges, depth }

def ofLook (l : Look) : Piece := { regex := .look l, shape := .look l }

def maxDepth (pieces : List Piece) : Nat := (pieces.map (·.depth)).foldl max 0

/-- One after the other, newest first. -/
def sequence : List Piece → Piece
  | [] => nothing
  | [p] => p
  | pieces =>
    { regex := .seqs (pieces.reverse.map (·.regex)), shape := .concat (pieces.reverse.map (·.shape)),
      depth := maxDepth pieces + 1 }

def alternatives : List Piece → Piece
  | [p] => p
  | pieces =>
    { regex := .alts (pieces.reverse.map (·.regex)), shape := .alternation (pieces.reverse.map (·.shape)),
      depth := maxDepth pieces + 1 }

def grouped (p : Piece) (number : Option Nat) : Piece :=
  match number with
  | some n => { regex := group n p.regex, shape := .group n p.shape, depth := p.depth + 1 }
  | none => { regex := p.regex, shape := p.shape, depth := p.depth + 1 }

def repeated (p : Piece) (min : Nat) (max : Option Nat) (greedy : Bool) : Piece :=
  { regex := rep p.regex min max greedy, shape := p.shape.repeated min max greedy, depth := p.depth + 1 }

end Piece

/-- The inside of a group while it is read. -/
structure Body where
  items : List Piece := []
  branches : List Piece := []

namespace Body

def push (b : Body) (p : Piece) : Body := { b with items := p :: b.items }

def nextBranch (b : Body) : Body := ⟨[], .sequence b.items :: b.branches⟩

def close (b : Body) : Piece := .alternatives (.sequence b.items :: b.branches)

end Body

/-- What stands around an open group: the body it is part of, the switches there, and its number if it has one. -/
structure OpenGroup where
  outer : Body
  flags : Flags
  number : Option Nat

/-- How far a pattern has been read. -/
structure Progress where
  body : Body := {}
  groups : List OpenGroup := []
  flags : Flags
  captures : Nat := 0
  names : List String := []

namespace Progress

/-- Adds an item to the innermost group. -/
def push (p : Progress) (piece : Piece) : Progress := { p with body := p.body.push piece }

def enter (p : Progress) (flags : Flags) (number : Option Nat) : Progress :=
  { p with body := {}, groups := ⟨p.body, p.flags, number⟩ :: p.groups, flags }

/-- Opens a group with the next number. -/
def enterCapture (p : Progress) : Progress :=
  { p.enter p.flags (some (p.captures + 1)) with captures := p.captures + 1 }

/-- Closes the innermost group. -/
def leave (p : Progress) : Except Error Progress :=
  match p.groups with
  | [] => .error .unopenedGroup
  | g :: groups => .ok { p with body := g.outer.push (p.body.close.grouped g.number), groups, flags := g.flags }

def repeatLast (p : Progress) (min : Nat) (max : Option Nat) (greedy : Bool) : Except Error Progress :=
  match p.body.items with
  | last :: items =>
    if last.repeatable then
      .ok { p with body := { p.body with items := last.repeated min max (greedy != p.flags.swapGreed) :: items } }
    else .error .nothingToRepeat
  | [] => .error .nothingToRepeat

def finish (p : Progress) : Except Error Regex :=
  if p.groups.isEmpty then
    let whole := p.body.close
    if 250 < whole.depth then .error .nestedTooDeep
    else if whole.shape.fits then .ok whole.regex
    else .error .tooLarge
  else .error .unclosedGroup

end Progress

/-! ## Groups -/

/-- Sets the switch with a given letter. -/
def setFlag? (flags : Flags) (c : Char) (on : Bool) : Option Flags :=
  match c with
  | 'i' => some { flags with ignoreCase := on }
  | 'm' => some { flags with multiLine := on }
  | 's' => some { flags with dotAll := on }
  | 'U' => some { flags with swapGreed := on }
  | 'u' => some { flags with unicode := on }
  | 'R' => some { flags with crlf := on }
  | 'x' => some { flags with verbose := on }
  | _ => none

/-- Reads switches up to the `:` or `)` after them. `seen` holds the letters so far, newest first, and `on` turns false
after a hyphen. -/
def readFlags (flags : Flags) (seen : List Char) (on : Bool) : List Char → Except Error (Flags × List Char × List Char)
  | [] => .error .flagsUnfinished
  | c :: cs =>
    if c == ':' || c == ')' then
      if seen.head? == some '-' then .error .flagNegationDangling else .ok (flags, seen, c :: cs)
    else if c == '-' then
      if on then readFlags flags ('-' :: seen) false cs else .error .flagNegatedTwice
    else
      match setFlag? flags c on with
      | some next => if seen.contains c then .error .flagTwice else readFlags next (c :: seen) on cs
      | none => .error .flagUnknown

/-- Whether a character can stand in the name of a group. -/
def isNameChar (first : Bool) (c : Char) : Bool :=
  if first then c == '_' || Text.isAlphabetic c
  else c == '_' || c == '.' || c == '[' || c == ']' || Text.isAlphanumeric c

/-- Reads the name of a group up to the `>` after it. -/
def readName (acc : List Char) : List Char → Except Error (String × List Char)
  | [] => .error .groupNameUnfinished
  | c :: cs =>
    if c == '>' then
      if acc.isEmpty then .error .groupNameEmpty else .ok (String.ofList acc.reverse, cs)
    else if isNameChar acc.isEmpty c then readName (c :: acc) cs
    else .error .groupNameInvalid

def readNamedGroup (p : Progress) (cs : List Char) : Except Error (Progress × List Char) := do
  let (name, cs) ← readName [] cs
  if p.names.contains name then .error .groupNameTwice
  return ({ p.enterCapture with names := name :: p.names }, cs)

/-- Reads the start of a group, or switches that stand alone, after the opening parenthesis. -/
def readGroup (p : Progress) (cs : List Char) : Except Error (Progress × List Char) :=
  match p.flags.skip cs with
  | '?' :: '=' :: _ | '?' :: '!' :: _ | '?' :: '<' :: '=' :: _ | '?' :: '<' :: '!' :: _ => .error .lookAround
  | '?' :: 'P' :: '<' :: cs => readNamedGroup p cs
  | '?' :: '<' :: cs => readNamedGroup p cs
  | ['?'] => .error .unclosedGroup
  | '?' :: cs => do
    let (flags, seen, cs) ← readFlags p.flags [] true cs
    match cs with
    | ')' :: cs =>
      if seen.isEmpty then .error .nothingToRepeat
      return ({ p.push { Piece.nothing with repeatable := false } with flags }, cs)
    | _ => return (p.enter flags none, cs.drop 1)
  | cs => .ok (p.enterCapture, cs)

/-! ## Repetitions -/

def readDigits (flags : Flags) (acc : List Char) : (fuel : Nat) → List Char → List Char × List Char
  | 0, cs => (acc.reverse, cs)
  | fuel + 1, cs =>
    match cs with
    | c :: rest => if c.isDigit then readDigits flags (c :: acc) fuel (flags.skip rest) else (acc.reverse, cs)
    | [] => (acc.reverse, [])

/-- Reads a number between blanks. -/
def readDecimal (flags : Flags) (cs : List Char) : Except Error (Nat × List Char) :=
  let cs := Text.trimStart cs
  let (digits, cs) := readDigits flags [] cs.length cs
  let cs := flags.skip (Text.trimStart cs)
  if digits.isEmpty then .error .countMissing
  else
    let n := digits.foldl (fun n c => 10 * n + (c.toNat - '0'.toNat)) 0
    if n < 4294967296 then .ok (n, cs) else .error .countTooLarge

/-- Reads the mark after a repetition that makes it prefer fewer rounds. -/
def readLazy : List Char → Bool × List Char
  | '?' :: cs => (false, cs)
  | cs => (true, cs)

/-- Reads the bounds of a repetition after its opening brace. -/
def readCount (flags : Flags) (cs : List Char) : Except Error (Nat × Option Nat × Bool × List Char) := do
  let cs := flags.skip cs
  if cs.isEmpty then .error .countUnclosed
  let (min, cs) ← readDecimal flags cs
  let (max, cs) ← match cs with
    | ',' :: cs =>
      match flags.skip cs with
      | [] => .error .countUnclosed
      | '\x7d' :: cs => pure (none, '\x7d' :: cs)
      | cs => do
        let (max, cs) ← readDecimal flags cs
        pure (some max, cs)
    | cs => pure (some min, cs)
  match cs with
  | '\x7d' :: cs =>
    let (greedy, cs) := readLazy (flags.skip cs)
    if max.any (· < min) then .error .countReversed
    return (min, max, greedy, cs)
  | _ => .error .countUnclosed

/-! ## Patterns -/

def charSet (flags : Flags) (c : Char) (byte : Bool) : Except Error CharSet :=
  if flags.unicode then .ok (if flags.ignoreCase then .ofChars (Text.caseOrbit c) else .single c)
  else if c.toNat < 0x80 then .ok (flags.fold (.single c))
  else if byte then .error .notText
  else .ok (.single c)

/-- The characters that a dot stands for: any character but the end of a line, or any character. -/
def dotSet (flags : Flags) : Except Error CharSet :=
  if !flags.unicode then .error .notText
  else if flags.dotAll then .ok .all
  else if flags.crlf then .ok (.compl (.ofChars ['\n', '\r']))
  else .ok (.compl (.single '\n'))

def atomPiece (flags : Flags) : Atom → Except Error Piece
  | .char c byte => return .ofSet (← charSet flags c byte)
  | .chars s => .ok (.ofSet s)
  | .assertion l => .ok (.ofLook l)

/-- Where a line starts, for `^`. -/
def startLook (flags : Flags) : Look :=
  if flags.multiLine then if flags.crlf then .startLineCrlf else .startLine else .startText

/-- Where a line ends, for `$`. -/
def endLook (flags : Flags) : Look :=
  if flags.multiLine then if flags.crlf then .endLineCrlf else .endLine else .endText

def readElement (p : Progress) (c : Char) (cs : List Char) : Except Error (Progress × List Char) := do
  match c with
  | '(' => readGroup p cs
  | ')' => return (← p.leave, cs)
  | '|' => return ({ p with body := p.body.nextBranch }, cs)
  | '[' =>
    let (item, cs) ← readBracket p.flags cs
    return (p.push (.ofSet item.chars item.depth), cs)
  | '?' =>
    let (greedy, cs) := readLazy cs
    return (← p.repeatLast 0 (some 1) greedy, cs)
  | '*' =>
    let (greedy, cs) := readLazy cs
    return (← p.repeatLast 0 none greedy, cs)
  | '+' =>
    let (greedy, cs) := readLazy cs
    return (← p.repeatLast 1 none greedy, cs)
  | '\x7b' =>
    let (min, max, greedy, cs) ← readCount p.flags cs
    return (← p.repeatLast min max greedy, cs)
  | '\\' =>
    let (atom, cs) ← readEscape p.flags cs
    return (p.push (← atomPiece p.flags atom), cs)
  | '.' => return (p.push (.ofSet (← dotSet p.flags)), cs)
  | '^' => return (p.push (.ofLook (startLook p.flags)), cs)
  | '$' => return (p.push (.ofLook (endLook p.flags)), cs)
  | c => return (p.push (.ofSet (← charSet p.flags c false)), cs)

/-- Reads the elements of a pattern one after the other; each takes at least one character. -/
def readElements (fuel : Nat) (p : Progress) (cs : List Char) : Except Error Regex :=
  match p.flags.skip cs, fuel with
  | [], _ => p.finish
  | _ :: _, 0 => .error .nestedTooDeep
  | c :: cs, fuel + 1 => do
    let (p, cs) ← readElement p c cs
    readElements fuel p cs

/-- Reads a regular expression; `ignoreCase` is its switch `i` at the start. -/
def parse (pattern : String) (ignoreCase : Bool := false) : Except Error Regex :=
  readElements (pattern.length + 1) { flags := { ignoreCase } } pattern.toList

end SourceAudit.Regex
