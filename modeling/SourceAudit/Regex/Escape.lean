import SourceAudit.Regex.Basic
import SourceAudit.Regex.Property
import SourceAudit.Text.Search

/-!
# Escape sequences

`Flags` : what is switched on at a place of a pattern.
`Atom` : what a character or an escape sequence stands for.
`readEscape` : reads an escape sequence, without its backslash.
-/

namespace SourceAudit.Regex

/-- The switches of a pattern. -/
structure Flags where
  ignoreCase : Bool := false
  multiLine : Bool := false
  dotAll : Bool := false
  swapGreed : Bool := false
  unicode : Bool := true
  crlf : Bool := false
  verbose : Bool := false
  deriving DecidableEq, Repr

/-- What a character or an escape sequence stands for. -/
inductive Atom where
  /-- A character; `byte` if it was written as a two-digit hexadecimal code. -/
  | char (c : Char) (byte : Bool)
  /-- A set that is named by a letter or a property. -/
  | chars (s : CharSet)
  | assertion (l : Look)

namespace Flags

/-- The set that differs from a given one at most in case, if case is ignored. -/
def fold (flags : Flags) (s : CharSet) : CharSet :=
  if flags.ignoreCase then if flags.unicode then .folded s else .asciiFolded s else s

/-- Skips what does not count in verbose mode: blanks, and comments from `#` to the end of the line. -/
def skip (flags : Flags) (cs : List Char) : List Char :=
  if flags.verbose then go false cs else cs
where
  go : Bool → List Char → List Char
    | _, [] => []
    | true, c :: cs => go (c != '\n') cs
    | false, c :: cs =>
      if Text.isBlank c then go false cs else if c == '#' then go true cs else c :: cs

end Flags

/-! ## Named sets -/

def asciiDigits : CharSet := .span '0' '9'

def asciiLetters : CharSet := .union (.span 'A' 'Z') (.span 'a' 'z')

def asciiWord : CharSet := .unions [asciiDigits, asciiLetters, .single '_']

def asciiBlank : CharSet := .union (.range 9 13) (.single ' ')

/-- The set that a letter such as `d` names. -/
def letterSet (flags : Flags) (c : Char) : Except Error CharSet :=
  let named : CharSet :=
    match c.toLower with
    | 'd' => if flags.unicode then .decimal else asciiDigits
    | 's' => if flags.unicode then .blank else asciiBlank
    | _ => if flags.unicode then .word else asciiWord
  if !c.isUpper then .ok named
  else if flags.unicode then .ok named.negated
  else .error .notText

/-! ## Character codes -/

/-- The value of hexadecimal digits. -/
def hexNumber? (cs : List Char) : Option Nat :=
  cs.foldl (fun acc c => do return 16 * (← acc) + (← Text.hexValue? c)) (some 0)

/-- The character with a code given in hexadecimal. -/
def charOfHex (digits : List Char) : Except Error Char :=
  match hexNumber? digits with
  | some n => if n.isValidChar then .ok (Char.ofNat n) else .error .hexNoCharacter
  | none => .error .hexDigit

def readHexDigits (flags : Flags) (acc : List Char) : Nat → List Char → Except Error (List Char × List Char)
  | 0, cs => .ok (acc.reverse, cs)
  | _ + 1, [] => .error .escapeUnfinished
  | n + 1, c :: cs =>
    if (Text.hexValue? c).isNone then .error .hexDigit else readHexDigits flags (c :: acc) n (flags.skip cs)

/-- Reads what stands before a closing brace, without skipped characters. -/
def readBraced (flags : Flags) (acc : List Char) : (fuel : Nat) → List Char → Except Error (List Char × List Char)
  | 0, _ => .error .escapeUnfinished
  | fuel + 1, cs =>
    match flags.skip cs with
    | [] => .error .escapeUnfinished
    | '\x7d' :: cs => .ok (acc.reverse, cs)
    | c :: cs => readBraced flags (c :: acc) fuel cs

/-- Reads a character code after `x`, `u` or `U`, which take two, four and eight digits, or any number in braces. -/
def readHexCode (flags : Flags) (digits : Nat) (cs : List Char) : Except Error (Atom × List Char) :=
  match flags.skip cs with
  | [] => .error .escapeUnfinished
  | '\x7b' :: cs => do
    let (code, cs) ← readBraced flags [] (cs.length + 1) cs
    if code.isEmpty then .error .hexEmpty
    return (.char (← charOfHex code) false, flags.skip cs)
  | cs => do
    let (code, cs) ← readHexDigits flags [] digits cs
    return (.char (← charOfHex code) (digits == 2), cs)

/-! ## Properties -/

/-- The set of a property as it stands in braces, and whether it is to be negated. A value stands after `!=`, which
negates, or after `:` or `=`. -/
def bracedProperty (text : List Char) : Except Error CharSet × Bool :=
  let valued (name value : List Char) := propertyValueSet (String.ofList name) (String.ofList value)
  match Text.cutAt? ['!', '='] text with
  | some (name, value) => (valued name value, true)
  | none =>
    match (Text.cutAt? [':'] text).or (Text.cutAt? ['='] text) with
    | some (name, value) => (valued name value, false)
    | none => (propertySet (String.ofList text), false)

/-- Reads a property after `p`, or after `P` when it is `negated`. -/
def readProperty (flags : Flags) (negated : Bool) (cs : List Char) : Except Error (Atom × List Char) := do
  let ((named, unequal), cs) ← match flags.skip cs with
    | [] => .error .escapeUnfinished
    | '\x7b' :: cs => do
      let (text, cs) ← readBraced flags [] (cs.length + 1) cs
      pure (bracedProperty text, cs)
    | '\\' :: _ => .error .propertyName
    | c :: cs => pure ((propertySet (String.ofList [c]), false), flags.skip cs)
  if !flags.unicode then .error .needsUnicode
  let s := flags.fold (← named)
  return (.chars (if negated != unequal then s.negated else s), cs)

/-! ## Word boundaries -/

/-- Whether a character can stand in the name of a word boundary. -/
def isBoundaryLetter (c : Char) : Bool := c.isAlpha || c == '-'

def readBoundaryName (flags : Flags) (acc : List Char) : (fuel : Nat) → List Char → List Char × List Char
  | 0, cs => (acc.reverse, cs)
  | fuel + 1, cs =>
    match cs with
    | c :: rest =>
      if isBoundaryLetter c then readBoundaryName flags (c :: acc) fuel (flags.skip rest) else (acc.reverse, cs)
    | [] => (acc.reverse, [])

/-- Reads what follows `\b`: a name in braces selects the kind of boundary. Braces that hold no name are left alone. -/
def readBoundary (flags : Flags) (cs : List Char) : Except Error (Atom × List Char) := do
  let ascii := !flags.unicode
  match cs with
  | '\x7b' :: rest =>
    match flags.skip rest with
    | [] => .error .boundaryUnclosed
    | c :: rest =>
      if !isBoundaryLetter c then return (.assertion (.wordBoundary ascii), cs)
      let (name, rest) := readBoundaryName flags [] (rest.length + 1) (c :: rest)
      match rest with
      | '\x7d' :: rest =>
        match String.ofList name with
        | "start" => return (.assertion (.wordStart ascii), rest)
        | "end" => return (.assertion (.wordEnd ascii), rest)
        | "start-half" => return (.assertion (.wordStartHalf ascii), rest)
        | "end-half" => return (.assertion (.wordEndHalf ascii), rest)
        | _ => .error .boundaryUnknown
      | _ => .error .boundaryUnclosed
  | _ => return (.assertion (.wordBoundary ascii), cs)

/-! ## Escapes -/

/-- Whether a backslash takes away the meaning of a character, if it has one. -/
def isEscapable (c : Char) : Bool :=
  c.toNat < 0x80 && !c.isAlphanum && c != '<' && c != '>'

/-- Reads an escape sequence, without its backslash. -/
def readEscape (flags : Flags) : List Char → Except Error (Atom × List Char)
  | [] => .error .escapeUnfinished
  | c :: cs =>
    if c.isDigit then .error .backreference
    else if isEscapable c then .ok (.char c false, cs)
    else
      match c with
      | 'x' => readHexCode flags 2 cs
      | 'u' => readHexCode flags 4 cs
      | 'U' => readHexCode flags 8 cs
      | 'p' => readProperty flags false cs
      | 'P' => readProperty flags true cs
      | 'd' | 's' | 'w' | 'D' | 'S' | 'W' => do return (.chars (← letterSet flags c), cs)
      | 'a' => .ok (.char '\x07' false, cs)
      | 'f' => .ok (.char '\x0c' false, cs)
      | 't' => .ok (.char '\t' false, cs)
      | 'n' => .ok (.char '\n' false, cs)
      | 'r' => .ok (.char '\r' false, cs)
      | 'v' => .ok (.char '\x0b' false, cs)
      | 'A' => .ok (.assertion .startText, cs)
      | 'z' => .ok (.assertion .endText, cs)
      | 'b' => readBoundary flags cs
      | 'B' => .ok (.assertion (.notWordBoundary !flags.unicode), cs)
      | '<' => .ok (.assertion (.wordStart !flags.unicode), cs)
      | '>' => .ok (.assertion (.wordEnd !flags.unicode), cs)
      | _ => .error .escapeUnknown

end SourceAudit.Regex
