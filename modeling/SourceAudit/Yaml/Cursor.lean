/-!
# A place in a YAML text

A `Cursor` is what is left of a text, with the line and column where it starts. Lines end with a line feed, a carriage
return or both, and also with one of the three line separators of Unicode.
-/

namespace SourceAudit.Yaml

/-- The rest of a text and its place. -/
structure Cursor where
  rest : List Char
  line : Nat := 0
  column : Nat := 0
  /-- The number of characters before. -/
  index : Nat := 0

def isSpaceOrTab (c : Char) : Bool := c == ' ' || c == '\t'

def isLineEnd (c : Char) : Bool :=
  c == '\n' || c == '\r' || c == '\u0085' || c == '\u2028' || c == '\u2029'

/-- Whether a place is at the end of a word: at a blank, at the end of a line or at the end of the text. -/
def endsWord : List Char → Bool
  | [] => true
  | c :: _ => isSpaceOrTab c || isLineEnd c

/-- Whether a place is at the end of a line or of the text. -/
def endsLine : List Char → Bool
  | [] => true
  | c :: _ => isLineEnd c

/-- Whether a character may stand in a YAML text. -/
def isAllowed (c : Char) : Bool :=
  let n := c.toNat
  n == 0x09 || n == 0x0A || n == 0x0D || (0x20 ≤ n && n ≤ 0x7E) || n == 0x85 ||
    (0xA0 ≤ n && n ≤ 0xFFFD) || 0x10000 ≤ n

/-- A character of the names of anchors, directives and handles. -/
def isNameChar (c : Char) : Bool := c.isAlphanum || c == '_' || c == '-'

namespace Cursor

/-- Moves over one character of a line. -/
def skip (c : Cursor) : Cursor :=
  match c.rest with
  | [] => c
  | _ :: cs => { c with rest := cs, column := c.column + 1, index := c.index + 1 }

/-- Moves over a number of characters of a line. -/
def skipMany (c : Cursor) : Nat → Cursor
  | 0 => c
  | n + 1 => c.skip.skipMany n

/-- Moves over the end of a line, which is read as a line feed or as the separator that it is. -/
def lineEnd (c : Cursor) : List Char × Cursor :=
  match c.rest with
  | '\r' :: '\n' :: cs => (['\n'], { rest := cs, line := c.line + 1, column := 0, index := c.index + 2 })
  | d :: cs =>
    if isLineEnd d then
      ([if d == '\u2028' || d == '\u2029' then d else '\n'],
        { rest := cs, line := c.line + 1, column := 0, index := c.index + 1 })
    else ([], c)
  | [] => ([], c)

/-- Moves over characters of a line that satisfy `p`. -/
def skipWhile (p : Char → Bool) (c : Cursor) : Cursor := c.skipMany (c.rest.takeWhile p).length

/-- Whether a line starts here that separates documents: `---` or `...`. -/
def atSeparator (c : Cursor) : Bool :=
  c.column == 0 &&
    match c.rest with
    | '-' :: '-' :: '-' :: cs => endsWord cs
    | '.' :: '.' :: '.' :: cs => endsWord cs
    | _ => false

end Cursor

end SourceAudit.Yaml
