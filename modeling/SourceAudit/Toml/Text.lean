import SourceAudit.Regex.NamedTable

/-!
# Texts in TOML

`readString` reads a quoted text in one of its four forms: with escapes or literally, on one line or on several.
-/

namespace SourceAudit.Toml

/-- Why a text is not a TOML document. -/
inductive Error where
  | badKey
  | badValue
  | badString
  | badEscape
  | badNumber
  | badDate
  | badArray
  | badTable
  | badHeader
  | badLine
  | duplicateKey (key : String)
  | notATable (key : String)
  | tooDeep
  deriving DecidableEq, Repr

namespace Error

def message : Error → String
  | badKey => "invalid key"
  | badValue => "invalid value"
  | badString => "invalid string"
  | badEscape => "invalid escape sequence"
  | badNumber => "invalid number"
  | badDate => "invalid date or time"
  | badArray => "invalid array"
  | badTable => "invalid inline table"
  | badHeader => "invalid table header"
  | badLine => "unexpected text at the end of a line"
  | duplicateKey key => s!"duplicate key `{key}`"
  | notATable key => s!"key `{key}` is not a table"
  | tooDeep => "recursion limit exceeded"

end Error

def isSpace (c : Char) : Bool := c == ' ' || c == '\t'

def skipSpaces (cs : List Char) : List Char := cs.dropWhile isSpace

/-- Whether a character may stand in a comment or a text: no control character but the tab. -/
def isText (c : Char) : Bool := c == '\t' || (0x20 ≤ c.toNat && c.toNat != 0x7F)

def readNewline? : List Char → Option (List Char)
  | '\n' :: cs => some cs
  | '\r' :: '\n' :: cs => some cs
  | _ => none

/-- Skips spaces, tabs and line ends. -/
def skipBlank : List Char → List Char
  | [] => []
  | '\r' :: '\n' :: cs => skipBlank cs
  | c :: cs => if isSpace c || c == '\n' then skipBlank cs else c :: cs

/-- Skips a comment up to the end of its line; characters that it must not hold are left. -/
def skipComment : List Char → List Char
  | '#' :: cs => cs.dropWhile isText
  | cs => cs

def charOfCode (digits : List Char) : Except Error Char :=
  let values := digits.filterMap Text.hexValue?
  let code := values.foldl (fun acc x => 16 * acc + x) 0
  if values.length = digits.length && code.isValidChar then .ok (Char.ofNat code) else .error .badEscape

/-- Reads an escape sequence after its backslash. -/
def readEscape : List Char → Except Error (Char × List Char)
  | 'b' :: cs => .ok ('\x08', cs)
  | 't' :: cs => .ok ('\t', cs)
  | 'n' :: cs => .ok ('\n', cs)
  | 'f' :: cs => .ok ('\x0c', cs)
  | 'r' :: cs => .ok ('\r', cs)
  | '\x22' :: cs => .ok ('\x22', cs)
  | '\\' :: cs => .ok ('\\', cs)
  | 'u' :: cs => if (cs.take 4).length = 4 then do return (← charOfCode (cs.take 4), cs.drop 4) else .error .badEscape
  | 'U' :: cs => if (cs.take 8).length = 8 then do return (← charOfCode (cs.take 8), cs.drop 8) else .error .badEscape
  | _ => .error .badEscape

/-! ## On one line -/

/-- Reads a text with escapes up to its closing quote, backwards onto `acc`. -/
def readBasic (fuel : Nat) (acc : List Char) (cs : List Char) : Except Error (List Char × List Char) :=
  match fuel, cs with
  | 0, _ | _, [] => .error .badString
  | fuel + 1, c :: cs =>
    if c == '\x22' then .ok (acc.reverse, cs)
    else if c == '\\' then do
      let (d, cs) ← readEscape cs
      readBasic fuel (d :: acc) cs
    else if isText c then readBasic fuel (c :: acc) cs
    else .error .badString

/-- Reads a literal text up to its closing quote. -/
def readLiteral (cs : List Char) : Except Error (List Char × List Char) :=
  let text := cs.takeWhile fun c => c != '\x27' && isText c
  match cs.drop text.length with
  | '\x27' :: rest => .ok (text, rest)
  | _ => .error .badString

/-! ## On several lines -/

/-- The number of quotes at the start, at most five. -/
def quoteRun (quote : Char) (cs : List Char) : Nat := ((cs.take 5).takeWhile (· == quote)).length

/-- Reads a text of several lines up to its three closing quotes, backwards onto `acc`; up to two quotes before those
belong to the text. `escapes` says whether a backslash has a meaning. -/
def readLong (quote : Char) (escapes : Bool) (fuel : Nat) (acc : List Char) (cs : List Char) :
    Except Error (List Char × List Char) :=
  match fuel, cs with
  | 0, _ | _, [] => .error .badString
  | fuel + 1, c :: rest =>
    if c == quote then
      let n := quoteRun quote cs
      if 3 ≤ n then .ok ((List.replicate (n - 3) quote ++ acc).reverse, cs.drop n)
      else readLong quote escapes fuel (quote :: acc) rest
    else if escapes && c == '\\' then
      match readNewline? (skipSpaces rest) with
      | some after => readLong quote escapes fuel acc (skipBlank after)
      | none => do
        let (d, after) ← readEscape rest
        readLong quote escapes fuel (d :: acc) after
    else
      match readNewline? cs with
      | some after => readLong quote escapes fuel ('\n' :: acc) after
      | none => if isText c then readLong quote escapes fuel (c :: acc) rest else .error .badString

/-- Skips a line end at the start of a text of several lines. -/
def skipFirstNewline (cs : List Char) : List Char := (readNewline? cs).getD cs

def readShortString : List Char → Except Error (List Char × List Char)
  | '\x22' :: cs => readBasic (cs.length + 1) [] cs
  | '\x27' :: cs => readLiteral cs
  | _ => .error .badString

def readString : List Char → Except Error (List Char × List Char)
  | '\x22' :: '\x22' :: '\x22' :: cs => readLong '\x22' true (cs.length + 1) [] (skipFirstNewline cs)
  | '\x27' :: '\x27' :: '\x27' :: cs => readLong '\x27' false (cs.length + 1) [] (skipFirstNewline cs)
  | cs => readShortString cs

end SourceAudit.Toml
