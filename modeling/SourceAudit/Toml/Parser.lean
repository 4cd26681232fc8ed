import SourceAudit.Toml.Number
import SourceAudit.Toml.Table

/-!
# TOML documents

`Toml.parse` reads a document. Arrays and tables in values are nested less than `depthLimit` deep, and a key has fewer
parts than that.
-/

namespace SourceAudit.Toml

/-- How deep values are never nested. -/
def depthLimit : Nat := 80

/-! ## Keys -/

/-- Whether a character may stand in a key without quotes. -/
def isBare (c : Char) : Bool := c.isAlphanum || c == '_' || c == '-'

def readSimpleKey (cs : List Char) : Except Error (String × List Char) :=
  match cs with
  | [] => .error .badKey
  | c :: _ =>
    if c == '\x22' || c == '\x27' then do
      let (text, rest) ← readShortString cs
      return (String.ofList text, rest)
    else
      let text := cs.takeWhile isBare
      if text.isEmpty then .error .badKey else .ok (String.ofList text, cs.drop text.length)

/-- Reads a key with dots: the keys before its last dot, backwards, and the last one. -/
def readKeyFrom (fuel : Nat) (acc : List String) (cs : List Char) : Except Error ((List String × String) × List Char) :=
  match fuel with
  | 0 => .error .badKey
  | fuel + 1 => do
    let (key, rest) ← readSimpleKey (skipSpaces cs)
    match skipSpaces rest with
    | '.' :: rest => readKeyFrom fuel (key :: acc) rest
    | rest =>
      if depthLimit ≤ acc.length + 1 then .error .tooDeep
      return ((acc.reverse, key), rest)

def readKey (cs : List Char) : Except Error ((List String × String) × List Char) := readKeyFrom (cs.length + 1) [] cs

/-! ## Values -/

/-- Skips what may stand between the items of an array: spaces, line ends and comments. -/
def skipFiller (fuel : Nat) (cs : List Char) : List Char :=
  match fuel with
  | 0 => cs
  | fuel + 1 =>
    match skipBlank cs with
    | '#' :: rest =>
      match readNewline? (skipComment ('#' :: rest)) with
      | some after => skipFiller fuel after
      | none => '#' :: rest
    | rest => rest

mutual

/-- Reads a value inside of `depth` others. -/
def readValue (fuel depth : Nat) (cs : List Char) : Except Error (Document × List Char) :=
  match fuel with
  | 0 => .error .badValue
  | fuel + 1 =>
    match cs with
    | 't' :: 'r' :: 'u' :: 'e' :: rest => .ok (.scalar { bool := some true }, rest)
    | 'f' :: 'a' :: 'l' :: 's' :: 'e' :: rest => .ok (.scalar { bool := some false }, rest)
    | '[' :: rest => if depthLimit ≤ depth + 1 then .error .tooDeep else readArray fuel (depth + 1) [] rest
    | '\x7b' :: rest => if depthLimit ≤ depth + 1 then .error .tooDeep else readInline fuel (depth + 1) true [] rest
    | c :: _ =>
      if c == '\x22' || c == '\x27' then do
        let (text, rest) ← readString cs
        return (.scalar { string := some (String.ofList text), name := some (String.ofList text) }, rest)
      else if c.isDigit || c == '+' || c == '-' || c == 'i' || c == 'n' then readNumber cs
      else .error .badValue
    | [] => .error .badValue

/-- Reads the items of an array up to its closing bracket; `acc` holds those so far, backwards. -/
def readArray (fuel depth : Nat) (acc : List Document) (cs : List Char) : Except Error (Document × List Char) :=
  match fuel with
  | 0 => .error .badArray
  | fuel + 1 =>
    match skipFiller (cs.length + 1) cs with
    | ']' :: rest => .ok (.list .open acc.reverse, rest)
    | cs => do
      let (d, rest) ← readValue fuel depth cs
      match skipFiller (rest.length + 1) rest with
      | ',' :: rest => readArray fuel depth (d :: acc) rest
      | ']' :: rest => return (.list .open (d :: acc).reverse, rest)
      | _ => .error .badArray

/-- Reads the entries of a table in braces; it stands on one line, and no comma follows its last entry. -/
def readInline (fuel depth : Nat) (first : Bool) (acc : Entries)
    (cs : List Char) : Except Error (Document × List Char) :=
  match fuel with
  | 0 => .error .badTable
  | fuel + 1 =>
    match skipSpaces cs, first with
    | '\x7d' :: rest, true => .ok (.table .byEmpty (entriesDocument acc), rest)
    | cs, _ => do
      let ((path, key), rest) ← readKey cs
      match rest with
      | '=' :: rest =>
        let (d, rest) ← readValue fuel depth (skipSpaces rest)
        let acc ← addValue path key d acc
        match skipSpaces rest with
        | ',' :: rest => readInline fuel depth false acc rest
        | '\x7d' :: rest => return (.table .byEmpty (entriesDocument acc), rest)
        | _ => .error .badTable
      | _ => .error .badTable

end

/-! ## Lines -/

/-- What has been read so far: the entries of the document and the path of the table that was named last. -/
structure Progress where
  entries : Entries := []
  header : List String := []

/-- Reads the end of a line: spaces, perhaps a comment, and a line end or the end of the text. -/
def readLineEnd (cs : List Char) : Except Error (List Char) :=
  match skipComment (skipSpaces cs) with
  | [] => .ok []
  | rest =>
    match readNewline? rest with
    | some after => .ok after
    | none => .error .badLine

/-- Reads a header after its opening bracket. -/
def readHeader (p : Progress) (cs : List Char) : Except Error (Progress × List Char) :=
  match cs with
  | '[' :: cs => do
    let ((path, key), rest) ← readKey cs
    match rest with
    | ']' :: ']' :: rest => return (⟨← openArrayTable path key p.entries, path ++ [key]⟩, rest)
    | _ => .error .badHeader
  | cs => do
    let ((path, key), rest) ← readKey cs
    match rest with
    | ']' :: rest => return (⟨← openTable path key p.entries, path ++ [key]⟩, rest)
    | _ => .error .badHeader

def readEntry (p : Progress) (cs : List Char) : Except Error (Progress × List Char) := do
  let ((path, key), rest) ← readKey cs
  match rest with
  | '=' :: rest =>
    let rest := skipSpaces rest
    let (d, rest) ← readValue (2 * rest.length + 2) 0 rest
    return ({ p with entries := ← addUnder p.header path key d p.entries }, rest)
  | _ => .error .badKey

def readLines (fuel : Nat) (p : Progress) (cs : List Char) : Except Error Progress :=
  match fuel with
  | 0 => .error .badLine
  | fuel + 1 =>
    match skipSpaces cs with
    | [] => .ok p
    | c :: rest => do
      if c == '\n' || c == '\r' || c == '#' then readLines fuel p (← readLineEnd (c :: rest))
      else
        let (p, rest) ← if c == '[' then readHeader p rest else readEntry p (c :: rest)
        readLines fuel p (← readLineEnd rest)

def parse (text : String) : Except Error Document := do
  let cs := match text.toList with
    | '\ufeff' :: cs => cs
    | cs => cs
  let p ← readLines (cs.length + 1) {} cs
  return .table .byEmpty (entriesDocument p.entries)

end SourceAudit.Toml
