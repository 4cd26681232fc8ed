import SourceAudit.Outline.Mask
import SourceAudit.Text.Blank

/-!
# Arguments of a call

`closingParen` finds the parenthesis that closes a call, and `splitArguments` the spans of its arguments: the parts
between commas that stand in no inner bracket, without the blanks around them.
-/

namespace SourceAudit.Outline

/-- Why no outline can be made of a line. -/
inductive BuildError where
  /-- A span of the mask that is not a span of the line. -/
  | badSpan (span : Span)
  /-- A closing parenthesis that closes nothing. -/
  | unbalanced (offset : Nat)
  deriving DecidableEq, Repr

/-- Cuts a span out of a text. -/
def cut (cs : List Char) (span : Span) : Except BuildError (List Char) :=
  match Text.slice? cs span.start span.stop with
  | some part => .ok part
  | none => .error (.badSpan span)

/-- The offset where the open parentheses close; `depth` are open at `offset`, where the text starts. -/
def closingFrom (depth offset : Nat) : List Char → Except BuildError (Option Nat)
  | [] => .ok none
  | c :: cs =>
    if c == '(' then closingFrom (depth + 1) (offset + c.utf8Size) cs
    else if c == ')' then
      match depth with
      | 0 => .error (.unbalanced offset)
      | 1 => .ok (some offset)
      | depth + 1 => closingFrom depth (offset + c.utf8Size) cs
    else closingFrom depth (offset + c.utf8Size) cs

/-- The offset of the parenthesis that closes the one at `opening`. -/
def closingParen (mask : List Char) (opening : Nat) : Except BuildError (Option Nat) :=
  match Text.dropBytes? mask opening with
  | some rest => closingFrom 0 opening rest
  | none => .error (.badSpan ⟨opening, opening⟩)

/-- The span of a segment without the blanks around it, if anything is left. -/
def trimSegment (start : Nat) (segment : List Char) : Option Span :=
  let trimmed := Text.trim segment
  if trimmed.isEmpty then none
  else
    let first := start + (Text.byteLength segment - Text.byteLength (Text.trimStart segment))
    some ⟨first, first + Text.byteLength trimmed⟩

def opensBracket (c : Char) : Bool := c == '(' || c == '[' || c == '\x7b'

def closesBracket (c : Char) : Bool := c == ')' || c == ']' || c == '\x7d'

/-- Splits a text at its commas of depth zero. The segment being read started at `start` and holds `segment`,
backwards. The depth may fall below zero. It is an integer without bounds: each byte changes it by one at most, so a
text of less than `2 ^ 31` bytes keeps it within 32 bits. -/
def splitFrom (depth : Int) (start : Nat) (segment : List Char) (offset : Nat) : List Char → List Span
  | [] => if depth = 0 then (trimSegment start segment.reverse).toList else []
  | c :: cs =>
    let next := offset + c.utf8Size
    if c == ',' && depth == 0 then
      (trimSegment start segment.reverse).toList ++ splitFrom depth next [] next cs
    else
      let depth := if opensBracket c then depth + 1 else if closesBracket c then depth - 1 else depth
      splitFrom depth start (c :: segment) next cs

/-- The spans of the arguments between two offsets. -/
def splitArguments (mask : List Char) (span : Span) : List Span :=
  match Text.slice? mask span.start span.stop with
  | some part => splitFrom 0 span.start [] span.start part
  | none => []

end SourceAudit.Outline
