import SourceAudit.Regex.NamedTable
import SourceAudit.Yaml.Cursor
import SourceAudit.Yaml.Token

/-!
# Tags and directives of YAML

`readTag` reads a tag such as `!name`, `!handle!name` or `!<name>`; `readDirective` reads a line such as `%YAML 1.2` or
`%TAG !e! tag:example,2000:` after its first character.

A character of a tag can be written as `%` and two hexadecimal digits for each of its bytes. What is read ends before
the first zero byte.
-/

namespace SourceAudit.Yaml

def bytesOf (cs : List Char) : TagText := cs.map Char.toNat

/-- Whether a character can stand in a tag; `verbatim` between angle brackets. -/
def isTagChar (verbatim : Bool) (c : Char) : Bool :=
  isNameChar c || [';', '/', '?', ':', '@', '&', '=', '+', '$', '.', '%', '!', '~', '*', '\x27', '(', ')'].contains c ||
    (verbatim && [',', '[', ']'].contains c)

/-- The number of bytes of the character that starts with a byte. -/
def sequenceLength? (byte : Nat) : Option Nat :=
  if byte < 0x80 then some 1
  else if 0xC0 ≤ byte && byte < 0xE0 then some 2
  else if 0xE0 ≤ byte && byte < 0xF0 then some 3
  else if 0xF0 ≤ byte && byte < 0xF8 then some 4
  else none

def readEscapedByte : List Char → Except Error (Nat × List Char)
  | '%' :: a :: b :: cs =>
    match Text.hexValue? a, Text.hexValue? b with
    | some x, some y => .ok (16 * x + y, cs)
    | _, _ => .error .badTag
  | _ => .error .badTag

/-- Reads a number of escaped bytes that go on with a character. -/
def readTrailingBytes : Nat → List Char → Except Error (TagText × List Char)
  | 0, cs => .ok ([], cs)
  | n + 1, cs => do
    let (byte, cs) ← readEscapedByte cs
    if byte < 0x80 || 0xC0 ≤ byte then .error .badTag
    let (bytes, cs) ← readTrailingBytes n cs
    return (byte :: bytes, cs)

def readEscapedChar (cs : List Char) : Except Error (TagText × List Char) := do
  let (first, cs) ← readEscapedByte cs
  match sequenceLength? first with
  | some n =>
    let (more, cs) ← readTrailingBytes (n - 1) cs
    return (first :: more, cs)
  | none => .error .badTag

def readTagChars (verbatim : Bool) : (fuel : Nat) → List Char → Except Error (TagText × List Char)
  | 0, cs => .ok ([], cs)
  | fuel + 1, cs =>
    match cs with
    | [] => .ok ([], [])
    | c :: rest =>
      if !isTagChar verbatim c then .ok ([], cs)
      else do
        let (bytes, rest) ← if c == '%' then readEscapedChar cs else pure ([c.toNat], rest)
        let (more, rest) ← readTagChars verbatim fuel rest
        return (bytes ++ more, rest)

/-- Reads a tag, or its rest after `start`; both together must not be empty. -/
def readTagText (verbatim : Bool) (start : TagText) (cs : List Char) : Except Error (TagText × List Char) := do
  let (bytes, rest) ← readTagChars verbatim cs.length cs
  if start.isEmpty && bytes.isEmpty then .error .badTag
  return ((start ++ bytes).takeWhile (· != 0), rest)

/-- Reads a handle as far as it goes: `!`, name characters and perhaps another `!`. -/
def readHandle : List Char → Except Error (List Char × List Char)
  | '!' :: cs =>
    let name := cs.takeWhile isNameChar
    match cs.drop name.length with
    | '!' :: rest => .ok ('!' :: name ++ ['!'], rest)
    | rest => .ok ('!' :: name, rest)
  | _ => .error .badTag

/-- Whether a handle stands between two marks. -/
def isFullHandle (handle : List Char) : Bool := 1 < handle.length && handle.getLast? == some '!'

/-- Reads a tag as a handle and a suffix. A tag that is `!` alone has no handle. -/
def readTag (cs : List Char) : Except Error (TagText × TagText × List Char) := do
  match cs with
  | '!' :: '<' :: cs =>
    let (name, rest) ← readTagText true [] cs
    match rest with
    | '>' :: rest => return ([], name, rest)
    | _ => .error .badTag
  | cs =>
    let (handle, rest) ← readHandle cs
    if isFullHandle handle then
      let (suffix, rest) ← readTagText false [] rest
      return (bytesOf handle, suffix, rest)
    else
      let (text, rest) ← readTagText false (bytesOf handle) rest
      match text.drop 1 with
      | [] => return ([], bytesOf ['!'], rest)
      | suffix => return (bytesOf ['!'], suffix, rest)

/-! ## Directives -/

def skipSpaces (cs : List Char) : List Char := cs.dropWhile isSpaceOrTab

/-- Reads a number of a version, of at most nine digits. -/
def readVersionNumber (cs : List Char) : Except Error (Nat × List Char) :=
  let digits := cs.takeWhile Char.isDigit
  if digits.isEmpty || 9 < digits.length then .error .badVersion
  else .ok (digits.foldl (fun n c => 10 * n + (c.toNat - '0'.toNat)) 0, cs.drop digits.length)

def readVersion (cs : List Char) : Except Error (Token × List Char) := do
  let (major, cs) ← readVersionNumber (skipSpaces cs)
  match cs with
  | '.' :: cs =>
    let (minor, cs) ← readVersionNumber cs
    return (.versionDirective major minor, cs)
  | _ => .error .badVersion

def readTagMeaning (cs : List Char) : Except Error (Token × List Char) := do
  let (handle, rest) ← readHandle (skipSpaces cs)
  if !isFullHandle handle && handle != ['!'] then .error .badDirective
  if !rest.head?.any isSpaceOrTab then .error .badDirective
  let (meaning, rest) ← readTagText true [] (skipSpaces rest)
  if !endsWord rest then .error .badDirective
  return (.tagDirective (bytesOf handle) meaning, rest)

/-- Reads a directive after its first character, up to the end of its line. -/
def readDirective (cs : List Char) : Except Error (Token × List Char) := do
  let name := cs.takeWhile isNameChar
  let rest := cs.drop name.length
  if name.isEmpty || !endsWord rest then .error .badDirective
  let (token, rest) ← match String.ofList name with
    | "YAML" => readVersion rest
    | "TAG" => readTagMeaning rest
    | _ => .error .badDirective
  let rest := skipSpaces rest
  let rest := if rest.head? == some '#' then rest.dropWhile fun c => !isLineEnd c else rest
  if endsLine rest then return (token, rest) else .error .badDirective

end SourceAudit.Yaml
