import SourceAudit.Yaml.Scalar
import SourceAudit.Yaml.Tag

/-!
# Reading tokens of YAML

A key is only known to be one when the colon after it is found. Until then the lexer remembers where a key may have
started (`PendingKey`), and puts the tokens that a key needs in front of it when the colon comes. A key stands on one
line and has at most 1024 characters.

`Lexer.indents` holds the columns of the open blocks, innermost first; `Lexer.keys` holds a pending key for each open
bracket, innermost first, and one for the text outside of all brackets.
-/

namespace SourceAudit.Yaml

/-- A place where a key may have started. -/
structure PendingKey where
  /-- The number of tokens before it. -/
  tokens : Nat
  line : Nat
  column : Nat
  index : Nat
  /-- A key has to start here, because a block goes on at this column. -/
  required : Bool

/-- How far a text has been read. -/
structure Lexer where
  cursor : Cursor
  /-- The tokens so far, newest first. -/
  tokens : List Token := []
  indents : List Nat := []
  keys : List (Option PendingKey) := [none]
  /-- A key may start here. -/
  keyAllowed : Bool := true

namespace Lexer

/-- Whether the place is between brackets. -/
def inFlow (x : Lexer) : Bool :=
  match x.keys with
  | _ :: _ :: _ => true
  | _ => false

def emit (x : Lexer) (t : Token) : Lexer := { x with tokens := t :: x.tokens }

/-- Puts tokens in front of those after the first `n`. -/
def insertAt (x : Lexer) (n : Nat) (ts : List Token) : Lexer :=
  let later := x.tokens.take (x.tokens.length - n)
  { x with tokens := later ++ ts.reverse ++ x.tokens.drop (x.tokens.length - n) }

/-- Forgets the innermost pending key, which must not be required. -/
def dropKey (x : Lexer) : Except Error Lexer :=
  match x.keys with
  | some key :: keys => if key.required then .error .keyNotFinished else .ok { x with keys := none :: keys }
  | _ => .ok x

/-- Remembers that a key may start here. -/
def saveKey (x : Lexer) : Except Error Lexer := do
  if x.keyAllowed then
    let x ← x.dropKey
    let key : PendingKey := {
      tokens := x.tokens.length
      line := x.cursor.line
      column := x.cursor.column
      index := x.cursor.index
      required := !x.inFlow && x.indents.head? == some x.cursor.column }
    return { x with keys := some key :: x.keys.drop 1 }
  else return x

/-- Forgets pending keys that can no longer be keys. -/
def dropStaleKeys (x : Lexer) : Except Error Lexer := do
  let keys ← x.keys.mapM fun key =>
    match key with
    | some k =>
      if k.line < x.cursor.line || k.index + 1024 < x.cursor.index then
        if k.required then .error .keyNotFinished else .ok none
      else .ok (some k)
    | none => .ok none
  return { x with keys }

/-- Whether a column lies deeper than the innermost block. -/
def isDeeper (x : Lexer) (column : Nat) : Bool := x.indents.head?.all (· < column)

/-- Opens a block at a column, if it is deeper than the innermost block. -/
def openBlock (x : Lexer) (t : Token) : Lexer :=
  if !x.inFlow && x.isDeeper x.cursor.column then
    { x.emit t with indents := x.cursor.column :: x.indents }
  else x

def closeBlocks (x : Lexer) (column : Option Nat) : Lexer :=
  if x.inFlow then x
  else
    let closed := x.indents.takeWhile fun indent => column.all (· < indent)
    { x with
      tokens := List.replicate closed.length Token.blockEnd ++ x.tokens
      indents := x.indents.drop closed.length }

/-- Moves over a number of characters. -/
def skipMany (x : Lexer) (n : Nat) : Lexer := { x with cursor := x.cursor.skipMany n }

/-- Moves to the next token: over blanks, comments and line ends, and over a byte order mark at the start of a line.
Where a key may start, a tab is no blank. -/
def toNextToken (fuel : Nat) (x : Lexer) : Lexer :=
  match fuel with
  | 0 => x
  | fuel + 1 =>
    let tabs := x.inFlow || !x.keyAllowed
    let c := if x.cursor.column == 0 && x.cursor.rest.head? == some '\ufeff' then x.cursor.skip else x.cursor
    let c := c.skipWhile fun d => d == ' ' || (tabs && d == '\t')
    let c := if c.rest.head? == some '#' then c.skipWhile fun d => !isLineEnd d else c
    if c.rest.head?.any isLineEnd then
      toNextToken fuel { x with cursor := c.lineEnd.2, keyAllowed := x.keyAllowed || !x.inFlow }
    else { x with cursor := c }

/-! ## Tokens -/

def readAnchor (x : Lexer) (token : String → Token) : Except Error Lexer := do
  let x ← x.saveKey
  let name := (x.cursor.rest.drop 1).takeWhile isNameChar
  let after := x.cursor.rest.drop (name.length + 1)
  let ends := endsWord after || after.head?.any fun c => ['?', ':', ',', ']', '\x7d', '%', '@', '\x60'].contains c
  if name.isEmpty || !ends then .error .badAnchor
  return { (x.skipMany (name.length + 1)).emit (token (String.ofList name)) with keyAllowed := false }

/-- Moves to where the rest of the text is `rest`, which is on the same line. -/
def moveTo (x : Lexer) (rest : List Char) : Lexer := x.skipMany (x.cursor.rest.length - rest.length)

def tag (x : Lexer) : Except Error Lexer := do
  let x ← x.saveKey
  let (handle, suffix, rest) ← readTag x.cursor.rest
  if !endsWord rest && !(x.inFlow && rest.head? == some ',') then .error .badTag
  return { (x.moveTo rest).emit (.tag handle suffix) with keyAllowed := false }

def directive (x : Lexer) : Except Error Lexer := do
  let x ← (x.closeBlocks none).dropKey
  let (token, rest) ← readDirective (x.cursor.rest.drop 1)
  let x := x.moveTo rest
  return { x.emit token with cursor := x.cursor.lineEnd.2, keyAllowed := false }

def readSeparator (x : Lexer) : Except Error Lexer := do
  let x ← (x.closeBlocks none).dropKey
  let token := if x.cursor.rest.head? == some '-' then Token.documentStart else .documentEnd
  return { (x.skipMany 3).emit token with keyAllowed := false }

def openFlow (x : Lexer) (t : Token) : Except Error Lexer := do
  let x ← x.saveKey
  return { (x.skipMany 1).emit t with keys := none :: x.keys, keyAllowed := true }

def closeFlow (x : Lexer) (t : Token) : Except Error Lexer := do
  let x ← x.dropKey
  let keys := if x.inFlow then x.keys.drop 1 else x.keys
  return { (x.skipMany 1).emit t with keys, keyAllowed := false }

/-- The comma between items in brackets. -/
def flowEntry (x : Lexer) : Except Error Lexer := do
  let x ← x.dropKey
  return { (x.skipMany 1).emit .flowEntry with keyAllowed := true }

/-- The hyphen before an item of a block. -/
def blockEntry (x : Lexer) : Except Error Lexer := do
  if !x.inFlow && !x.keyAllowed then .error .entryNotAllowed
  let x ← (x.openBlock .blockSequenceStart).dropKey
  return { (x.skipMany 1).emit .blockEntry with keyAllowed := true }

/-- The question mark before a key. -/
def explicitKey (x : Lexer) : Except Error Lexer := do
  if !x.inFlow && !x.keyAllowed then .error .keyNotAllowed
  let x ← (x.openBlock .blockMappingStart).dropKey
  return { (x.skipMany 1).emit .key with keyAllowed := !x.inFlow }

/-- The colon before a value. If a key is pending, its tokens are put in front of it. -/
def value (x : Lexer) : Except Error Lexer := do
  match x.keys with
  | some key :: keys =>
    let opens := !x.inFlow && x.isDeeper key.column
    let x := x.insertAt key.tokens ((if opens then [.blockMappingStart] else []) ++ [.key])
    let indents := if opens then key.column :: x.indents else x.indents
    return { (x.skipMany 1).emit .value with keys := none :: keys, indents, keyAllowed := false }
  | _ =>
    if !x.inFlow && !x.keyAllowed then .error .valueNotAllowed
    let x := x.openBlock .blockMappingStart
    return { (x.skipMany 1).emit .value with keyAllowed := !x.inFlow }

def blockScalar (x : Lexer) (literal : Bool) : Except Error Lexer := do
  let x ← x.dropKey
  let (text, cursor) ← readBlock literal x.indents.head? x.cursor
  return { x.emit (.scalar text (if literal then .literal else .other)) with cursor, keyAllowed := true }

def quotedScalar (x : Lexer) (single : Bool) : Except Error Lexer := do
  let x ← x.saveKey
  let (text, cursor) ← readQuoted single x.cursor
  return { x.emit (.scalar text .other) with cursor, keyAllowed := false }

/-- A plain scalar. After the end of a line a key may start. -/
def plainScalar (x : Lexer) : Except Error Lexer := do
  let x ← x.saveKey
  let indent := match x.indents with
    | i :: _ => i + 1
    | [] => 0
  let (text, multiline, cursor) ← readPlain x.inFlow indent x.cursor
  return { x.emit (.scalar text .plain) with cursor, keyAllowed := multiline }

/-- Characters that start no plain scalar. -/
def isIndicator (c : Char) : Bool :=
  ['-', '?', ':', ',', '[', ']', '\x7b', '\x7d', '#', '&', '*', '!', '|', '>', '\x27', '\x22', '%', '@',
    '\x60'].contains c

def startsPlain (flow : Bool) : List Char → Bool
  | [] => false
  | c :: cs =>
    if c == '-' then !(cs.head?.any isSpaceOrTab)
    else if c == '?' || c == ':' then !flow && !endsWord cs
    else !isIndicator c && !endsWord [c]

def readToken (x : Lexer) (c : Char) (cs : List Char) : Except Error Lexer :=
  let flow := x.inFlow
  if x.cursor.column == 0 && c == '%' then x.directive
  else if x.cursor.atSeparator then x.readSeparator
  else if c == '[' then x.openFlow .flowSequenceStart
  else if c == '\x7b' then x.openFlow .flowMappingStart
  else if c == ']' then x.closeFlow .flowSequenceEnd
  else if c == '\x7d' then x.closeFlow .flowMappingEnd
  else if c == ',' then x.flowEntry
  else if c == '-' && endsWord cs then x.blockEntry
  else if c == '?' && (flow || endsWord cs) then x.explicitKey
  else if c == ':' && (flow || endsWord cs) then x.value
  else if c == '*' then x.readAnchor .alias
  else if c == '&' then x.readAnchor .anchor
  else if c == '!' then x.tag
  else if c == '|' && !flow then x.blockScalar true
  else if c == '>' && !flow then x.blockScalar false
  else if c == '\x27' then x.quotedScalar true
  else if c == '\x22' then x.quotedScalar false
  else if startsPlain flow (c :: cs) then x.plainScalar
  else .error .noToken

/-- Reads the rest of the tokens; each takes at least one character. -/
def run (fuel : Nat) (x : Lexer) : Except Error (List Token) :=
  match fuel with
  | 0 => .error .noToken
  | fuel + 1 => do
    let x := x.toNextToken (fuel + 1)
    let x ← x.dropStaleKeys
    match x.cursor.rest with
    | [] => return (← (x.closeBlocks none).dropKey).tokens.reverse
    | c :: cs => run fuel (← (x.closeBlocks (some x.cursor.column)).readToken c cs)

end Lexer

def tokenize (text : List Char) : Except Error (List Token) :=
  if text.all isAllowed then Lexer.run (text.length + 1) { cursor := { rest := text } } else .error .badCharacter

end SourceAudit.Yaml
