import SourceAudit.Text.Bytes

/-!
# Masked lines

Code that only looks like code, inside strings and comments, must not be taken for code. `maskLine` writes a space for
each byte inside a string and from the start of a comment to the end of the line, and keeps everything else, so that
byte offsets in the mask are byte offsets in the line. It also lists the spans of the strings.

A string may start with up to two letters such as `f` or `rb`; a string that is not closed ends with the line.
-/

namespace SourceAudit.Outline

/-- A part of a line, from a byte offset up to another. -/
structure Span where
  start : Nat
  stop : Nat
  deriving DecidableEq, Repr, Inhabited

/-- A line with the insides of strings and comments blanked out, and the spans of its strings. -/
structure MaskedLine where
  mask : List Char
  strings : List Span
  deriving DecidableEq, Repr

namespace MaskedLine

def after (lead : List Char) (m : MaskedLine) : MaskedLine := { m with mask := lead ++ m.mask }

def withString (s : Span) (m : MaskedLine) : MaskedLine := { m with strings := s :: m.strings }

end MaskedLine

def isQuote (c : Char) : Bool := c == '\x22' || c == '\x27' || c == '\x60'

/-- Whether a letter can stand before the opening quote of a string. -/
def isStringLetter (c : Char) : Bool := ['f', 'F', 'r', 'R', 'b', 'B', 'u', 'U'].contains c

/-- How many of the characters before an opening quote belong to the string; `before` lists them backwards. Letters at
the end of a longer word do not. -/
def leadLength (before : List Char) : Nat :=
  let lead := (before.take 2).takeWhile isStringLetter
  match before.drop lead.length with
  | c :: _ => if c.isAlphanum || c == '_' then 0 else lead.length
  | [] => lead.length

def spaces (cs : List Char) : List Char := List.replicate (Text.byteLength cs) ' '

/-- Whether a comment starts here: `//`, or `#` where it does. -/
def startsComment (hash : Bool) : List Char → Bool
  | '#' :: _ => hash
  | '/' :: '/' :: _ => true
  | _ => false

inductive ScanState where
  | code
  /-- Inside the string that started at an offset; `escaped` after a backslash. -/
  | string (quote : Char) (start : Nat) (escaped : Bool)

/-- Masks the rest of a line; `before` holds what precedes it, backwards, and `offset` its length in bytes. -/
def maskFrom (hash : Bool) : ScanState → (before : List Char) → (offset : Nat) → List Char → MaskedLine
  | .code, _, _, [] => ⟨[], []⟩
  | .string _ start _, _, offset, [] => ⟨[], [⟨start, offset⟩]⟩
  | .code, before, offset, c :: cs =>
    if isQuote c then
      (maskFrom hash (.string c (offset - leadLength before) false) (c :: before) (offset + c.utf8Size) cs).after [c]
    else if startsComment hash (c :: cs) then ⟨spaces (c :: cs), []⟩
    else (maskFrom hash .code (c :: before) (offset + c.utf8Size) cs).after [c]
  | .string quote start escaped, before, offset, c :: cs =>
    let next := offset + c.utf8Size
    if escaped then (maskFrom hash (.string quote start false) (c :: before) next cs).after (spaces [c])
    else if c == '\\' then (maskFrom hash (.string quote start true) (c :: before) next cs).after (spaces [c])
    else if c == quote then ((maskFrom hash .code (c :: before) next cs).withString ⟨start, next⟩).after [c]
    else (maskFrom hash (.string quote start false) (c :: before) next cs).after (spaces [c])

/-- Masks a line; `hash` says whether `#` starts a comment. -/
def maskLine (hash : Bool) (line : List Char) : MaskedLine := maskFrom hash .code [] 0 line

end SourceAudit.Outline
