import SourceAudit.Query.Token
import SourceAudit.Text.Ascii
import SourceAudit.Text.Blank
import SourceAudit.Text.Numeric

/-!
# From query text to tokens

`tokenize` never fails: a character without a meaning and a literal that is never closed become `unknown` tokens. Blanks
and comments, which run from `#` to the end of the line, separate tokens. The last token is always the end marker.

`lexeme c cs` reads one token that starts with `c` and tells how many of the characters `cs` belong to it.
-/

namespace SourceAudit.Query

def startsIdentifier (c : Char) : Bool := Text.isAlphabetic c || c == '_' || c == '$'

def continuesIdentifier (c : Char) : Bool :=
  Text.isAlphanumeric c || c == '_' || c == '$' || c == '.' || c == '-'

/-- The token of a word: a keyword in any case, else an identifier. -/
def wordKind (word : List Char) : TokenKind :=
  match Keyword.ofName? (String.ofList (Text.asciiUpper word)) with
  | some k => .keyword k
  | none => .identifier (String.ofList word)

/-- The character that a backslash followed by `c` stands for in a string. -/
def unescape (c : Char) : Char :=
  if c = 'n' then '\n' else if c = 't' then '\t' else c

/-- Reads the rest of a string: its value and the number of characters up to and with the closing quote. -/
def stringBody (quote : Char) : List Char → Option (List Char × Nat)
  | [] => none
  | c :: cs =>
    if c = quote then some ([], 1)
    else if c = '\\' then
      match cs with
      | [] => none
      | d :: ds => (stringBody quote ds).map fun (value, n) => (unescape d :: value, n + 2)
    else (stringBody quote cs).map fun (value, n) => (c :: value, n + 1)

/-- Reads the rest of a regex up to and with the closing slash. Without one before the line ends there is no pattern,
and the characters up to and with the line end are taken. An escaped slash is a slash; other escapes stay as they are.
-/
def regexBody : List Char → Option (List Char) × Nat
  | [] => (none, 0)
  | c :: cs =>
    if c = '/' then (some [], 1)
    else if c = '\n' then (none, 1)
    else if c = '\\' then
      match cs with
      | [] => (none, 1)
      | d :: ds =>
        let (pattern, n) := regexBody ds
        (pattern.map fun p => if d = '/' then '/' :: p else '\\' :: d :: p, n + 2)
    else
      let (pattern, n) := regexBody cs
      (pattern.map (c :: ·), n + 1)

def punctuation? (c : Char) : Option TokenKind :=
  match c with
  | '(' => some .leftParen
  | ')' => some .rightParen
  | '\x7b' => some .leftBrace
  | '\x7d' => some .rightBrace
  | '[' => some .leftBracket
  | ']' => some .rightBracket
  | ':' => some .colon
  | ',' => some .comma
  | '|' => some .pipe
  | _ => none

/-- Reads the token that starts with `c`, and the number of characters of `cs` that belong to it. -/
def lexeme (c : Char) (cs : List Char) : TokenKind × Nat :=
  match punctuation? c with
  | some kind => (kind, 0)
  | none =>
    if c = '\x22' || c = '\x27' then
      match stringBody c cs with
      | some (value, n) => (.string (String.ofList value), n)
      | none => (.unknown (String.ofList (c :: cs)), cs.length)
    else if c = '/' then
      match regexBody cs with
      | (some pattern, n) =>
        let flags := (cs.drop n).takeWhile Char.isAlpha
        (.regex (String.ofList pattern) (String.ofList flags), n + flags.length)
      | (none, n) => (.unknown (String.ofList (Text.trimEnd (c :: cs))), n)
    else if startsIdentifier c then
      let more := cs.takeWhile continuesIdentifier
      (wordKind (c :: more), more.length)
    else (.unknown (String.ofList [c]), 0)

/-- The tokens of the text `cs` that starts at `p`. -/
def tokensFrom (p : Position) (cs : List Char) : List Token :=
  match cs with
  | [] => [⟨.eof, p⟩]
  | c :: cs =>
    if Text.isBlank c then tokensFrom (p.step c) cs
    else if c = '#' then
      tokensFrom (p.advance (c :: cs.takeWhile (· ≠ '\n'))) (cs.dropWhile (· ≠ '\n'))
    else
      let (kind, n) := lexeme c cs
      ⟨kind, p⟩ :: tokensFrom (p.advance (c :: cs.take n)) (cs.drop n)
termination_by cs.length
decreasing_by
  · simp
  · have := (List.dropWhile_sublist (l := cs) (fun d => decide (d ≠ '\n'))).length_le
    simp only [List.length_cons]
    omega
  · simp only [List.length_cons, List.length_drop]
    omega

def tokenize (query : String) : List Token := tokensFrom .start query.toList

end SourceAudit.Query
