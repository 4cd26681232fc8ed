import SourceAudit.Regex.NamedTable
import SourceAudit.Yaml.Cursor
import SourceAudit.Yaml.Token

/-!
# Scalars of YAML

`readPlain`, `readQuoted` and `readBlock` read the three ways to write a scalar. Line ends inside plain and quoted
scalars are folded: one becomes a space, and of several the first is dropped (`Gap.text`).
-/

namespace SourceAudit.Yaml

/-- Blanks and line ends between two parts of a scalar. -/
structure Gap where
  blanks : List Char := []
  breaks : List Char := []
  /-- The first line end was escaped. -/
  escaped : Bool := false

namespace Gap

def text (g : Gap) : List Char :=
  if g.escaped then g.breaks
  else
    match g.breaks with
    | [] => g.blanks
    | ['\n'] => [' ']
    | '\n' :: more => more
    | breaks => breaks

/-- Whether a gap goes over the end of a line. -/
def isMultiline (g : Gap) : Bool := g.escaped || !g.breaks.isEmpty

end Gap

/-- Reads blanks and line ends. After a line end no tab may come before column `indent`. -/
def readGap (indent : Nat) (fuel : Nat) (gap : Gap) (c : Cursor) : Except Error (Gap × Cursor) :=
  match fuel with
  | 0 => .ok (gap, c)
  | fuel + 1 =>
    match c.rest with
    | [] => .ok (gap, c)
    | d :: _ =>
      if isSpaceOrTab d then
        if gap.isMultiline then
          if d == '\t' && c.column < indent then .error .tabInIndentation else readGap indent fuel gap c.skip
        else readGap indent fuel { gap with blanks := gap.blanks ++ [d] } c.skip
      else if isLineEnd d then
        let (text, c) := c.lineEnd
        readGap indent fuel { gap with breaks := gap.breaks ++ text } c
      else .ok (gap, c)

/-! ## Plain scalars -/

/-- Whether a character has a meaning of its own between the brackets of a flow collection. -/
def isFlowIndicator (c : Char) : Bool := [',', '[', ']', '\x7b', '\x7d'].contains c

/-- Whether a plain scalar ends here, inside a line; `flow` between brackets. -/
def endsPlain (flow : Bool) : List Char → Except Error Bool
  | [] => .ok true
  | c :: cs =>
    if flow && c == ':' && (cs.head?.any fun d => isFlowIndicator d || d == '?') then .error .unexpectedColon
    else .ok (endsWord (c :: cs) || (c == ':' && endsWord cs) || (flow && isFlowIndicator c))

/-- Reads the characters of a plain scalar up to the next blank, backwards onto `acc`. -/
def readPlainWord (flow : Bool) (fuel : Nat) (acc : List Char) (c : Cursor) : Except Error (List Char × Cursor) :=
  match fuel with
  | 0 => .ok (acc, c)
  | fuel + 1 => do
    if ← endsPlain flow c.rest then return (acc, c)
    readPlainWord flow fuel ((c.rest.take 1) ++ acc) c.skip

/-- Reads a plain scalar, backwards onto `acc`, after a gap; it goes on over lines that are indented by at least
`indent`. The result tells also whether the scalar was followed by the end of a line. -/
def readPlainFrom (flow : Bool) (indent : Nat) (fuel : Nat) (acc : List Char) (gap : Gap) (c : Cursor) :
    Except Error (List Char × Bool × Cursor) :=
  match fuel with
  | 0 => .ok (acc, gap.isMultiline, c)
  | fuel + 1 => do
    if c.atSeparator || c.rest.head? == some '#' then return (acc, gap.isMultiline, c)
    let (word, next) ← readPlainWord flow (c.rest.length + 1) [] c
    let (acc, gap) := if word.isEmpty then (acc, gap) else (word ++ gap.text.reverse ++ acc, {})
    if next.rest.isEmpty || !endsWord next.rest then return (acc, gap.isMultiline, next)
    let (gap, next) ← readGap indent (next.rest.length + 1) gap next
    if !flow && next.column < indent then return (acc, gap.isMultiline, next)
    readPlainFrom flow indent fuel acc gap next

def readPlain (flow : Bool) (indent : Nat) (c : Cursor) : Except Error (String × Bool × Cursor) := do
  let (text, multiline, c) ← readPlainFrom flow indent (c.rest.length + 1) [] {} c
  return (String.ofList text.reverse, multiline, c)

/-! ## Quoted scalars -/

/-- The character that a letter after a backslash stands for. -/
def escape? : Char → Option Char
  | '0' => some '\x00'
  | 'a' => some '\x07'
  | 'b' => some '\x08'
  | 't' | '\t' => some '\t'
  | 'n' => some '\n'
  | 'v' => some '\x0b'
  | 'f' => some '\x0c'
  | 'r' => some '\r'
  | 'e' => some '\x1b'
  | ' ' => some ' '
  | '\x22' => some '\x22'
  | '/' => some '/'
  | '\\' => some '\\'
  | 'N' => some '\u0085'
  | '_' => some '\u00a0'
  | 'L' => some '\u2028'
  | 'P' => some '\u2029'
  | _ => none

/-- The number of digits of a character code after `x`, `u` or `U`. -/
def codeLength? : Char → Option Nat
  | 'x' => some 2
  | 'u' => some 4
  | 'U' => some 8
  | _ => none

/-- Reads an escape sequence after its backslash. -/
def readEscape (c : Cursor) : Except Error (Char × Cursor) :=
  match c.rest with
  | [] => .error .unknownEscape
  | d :: cs =>
    match escape? d, codeLength? d with
    | some e, _ => .ok (e, c.skip)
    | none, some n =>
      let digits := (cs.take n).filterMap Text.hexValue?
      let code := digits.foldl (fun acc x => 16 * acc + x) 0
      if digits.length = n && code.isValidChar then .ok (Char.ofNat code, c.skipMany (n + 1)) else .error .badCode
    | none, none => .error .unknownEscape

/-- Reads a quoted scalar after its opening quote, backwards onto `acc`; `single` says which quote it is. -/
def readQuotedFrom (single : Bool) (fuel : Nat) (acc : List Char) (c : Cursor) : Except Error (List Char × Cursor) :=
  match fuel with
  | 0 => .error .unclosedScalar
  | fuel + 1 => do
    if c.atSeparator then .error .unexpectedSeparator
    match c.rest with
    | [] => .error .unclosedScalar
    | d :: cs =>
      if single && d == '\x27' then
        if cs.head? == some '\x27' then readQuotedFrom single fuel ('\x27' :: acc) (c.skipMany 2)
        else return (acc, c.skip)
      else if !single && d == '\x22' then return (acc, c.skip)
      else if !single && d == '\\' then
        if cs.head?.any isLineEnd then
          let (_, next) := c.skip.lineEnd
          let (gap, next) ← readGap 0 (next.rest.length + 1) { escaped := true } next
          readQuotedFrom single fuel (gap.text.reverse ++ acc) next
        else
          let (e, next) ← readEscape c.skip
          readQuotedFrom single fuel (e :: acc) next
      else if isSpaceOrTab d || isLineEnd d then
        let (gap, next) ← readGap 0 (c.rest.length + 1) {} c
        readQuotedFrom single fuel (gap.text.reverse ++ acc) next
      else readQuotedFrom single fuel (d :: acc) c.skip

def readQuoted (single : Bool) (c : Cursor) : Except Error (String × Cursor) := do
  let (text, c) ← readQuotedFrom single (c.rest.length + 1) [] c.skip
  return (String.ofList text.reverse, c)

/-! ## Block scalars -/

/-- What is kept of the line ends after a block scalar. -/
inductive Chomping where
  | strip
  | clip
  | keep
  deriving DecidableEq

def chomping? : Char → Option Chomping
  | '+' => some .keep
  | '-' => some .strip
  | _ => none

/-- Reads the header of a block scalar after its first character: a sign and a digit in either order, each perhaps left
out. -/
def readHeader (c : Cursor) : Except Error (Chomping × Nat × Cursor) := do
  let sign (c : Cursor) : Chomping × Cursor :=
    match c.rest.head?.bind chomping? with
    | some ch => (ch, c.skip)
    | none => (.clip, c)
  let digit (c : Cursor) : Except Error (Nat × Cursor) :=
    match c.rest with
    | d :: _ =>
      if d == '0' then .error .badBlockHeader
      else if d.isDigit then .ok (d.toNat - '0'.toNat, c.skip)
      else .ok (0, c)
    | [] => .ok (0, c)
  match c.rest.head?.bind chomping? with
  | some _ =>
    let (ch, c) := sign c
    let (n, c) ← digit c
    return (ch, n, c)
  | none =>
    let (n, c) ← digit c
    if n = 0 then return (.clip, 0, c)
    let (ch, c) := sign c
    return (ch, n, c)

/-- Reads the empty lines before a line of a block scalar and the indentation of that line. An `indent` of zero is not
known yet: it becomes the greatest indentation found, but at least `least`. -/
def readIndentation (least : Nat) (indent : Nat) (fuel : Nat) (widest : Nat) (breaks : List Char) (c : Cursor) :
    Except Error (Nat × List Char × Cursor) :=
  match fuel with
  | 0 => .ok (indent, breaks, c)
  | fuel + 1 =>
    let spaces := (c.rest.takeWhile (· == ' ')).length
    let c := c.skipMany (if indent = 0 then spaces else min spaces (indent - c.column))
    let widest := max widest c.column
    if (indent = 0 || c.column < indent) && c.rest.head? == some '\t' then .error .tabInIndentation
    else if c.rest.head?.any isLineEnd then
      let (text, c) := c.lineEnd
      readIndentation least indent fuel widest (breaks ++ text) c
    else .ok (if indent = 0 then max (max widest least) 1 else indent, breaks, c)

/-- Reads the lines of a block scalar that are indented by `indent`, backwards onto `acc`. `lead` is the end of the line
before, `breaks` are the empty lines after it, and `blank` says whether that line started with a blank. -/
def readLines (literal : Bool) (indent : Nat) (fuel : Nat) (acc lead breaks : List Char) (blank : Bool) (c : Cursor) :
    Except Error (List Char × List Char × List Char × Cursor) :=
  match fuel with
  | 0 => .ok (acc, lead, breaks, c)
  | fuel + 1 => do
    if c.column ≠ indent || c.rest.isEmpty then return (acc, lead, breaks, c)
    let startsBlank := c.rest.head?.any isSpaceOrTab
    let folded := !literal && lead == ['\n'] && !blank && !startsBlank
    let joint := if folded then (if breaks.isEmpty then [' '] else []) else lead
    let line := c.rest.takeWhile fun d => !isLineEnd d
    let acc := line.reverse ++ (joint ++ breaks).reverse ++ acc
    let (lead, next) := (c.skipMany line.length).lineEnd
    let (_, breaks, next) ← readIndentation 0 indent (next.rest.length + 1) 0 [] next
    readLines literal indent fuel acc lead breaks startsBlank next

/-- Reads a block scalar; `parent` is the indentation of the block around it, if there is one. -/
def readBlock (literal : Bool) (parent : Option Nat) (c : Cursor) : Except Error (String × Cursor) := do
  let (chomping, increment, c) ← readHeader c.skip
  let c := c.skipWhile isSpaceOrTab
  let c := if c.rest.head? == some '#' then c.skipWhile fun d => !isLineEnd d else c
  if !endsLine c.rest then .error .badBlockHeader
  let (_, c) := c.lineEnd
  let indent := if increment = 0 then 0 else parent.getD 0 + increment
  let least := match parent with
    | some p => p + 1
    | none => 0
  let (indent, breaks, c) ← readIndentation least indent (c.rest.length + 1) 0 [] c
  let (text, lead, breaks, c) ← readLines literal indent (c.rest.length + 1) [] [] breaks false c
  let tail := match chomping with
    | .strip => []
    | .clip => lead
    | .keep => lead ++ breaks
  return (String.ofList (text.reverse ++ tail), c)

end SourceAudit.Yaml
