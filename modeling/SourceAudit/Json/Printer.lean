import SourceAudit.Binary64.Printer
import SourceAudit.Json.Basic

/-!
# Writing JSON

`Json.compact` writes a value on one line without blanks, `Json.pretty` on several lines with an indentation of two
blanks. Numbers that are not finite are written as `null`.
-/

namespace SourceAudit.Json

def hexDigit (n : Nat) : Char := (Nat.digitChar n)

/-- The characters that stand for `c` inside quotes. -/
def escapeChar (c : Char) : List Char :=
  if c = '\x22' then ['\\', '\x22']
  else if c = '\\' then ['\\', '\\']
  else if c = '\n' then ['\\', 'n']
  else if c = '\r' then ['\\', 'r']
  else if c = '\t' then ['\\', 't']
  else if c.toNat = 8 then ['\\', 'b']
  else if c.toNat = 12 then ['\\', 'f']
  else if c.toNat < 32 then ['\\', 'u', '0', '0', hexDigit (c.toNat / 16), hexDigit (c.toNat % 16)]
  else [c]

def quote (s : String) : String :=
  "\"" ++ String.ofList (s.toList.flatMap escapeChar) ++ "\""

mutual

def compact : Json → String
  | .null => "null"
  | .bool b => if b then "true" else "false"
  | .int n => toString n
  | .number x => x.jsonText.getD "null"
  | .string s => quote s
  | .array items => "[" ++ ",".intercalate (compactItems items) ++ "]"
  | .object fields => "\x7b" ++ ",".intercalate (compactFields fields) ++ "\x7d"

def compactItems : List Json → List String
  | [] => []
  | j :: js => compact j :: compactItems js

def compactFields : List (String × Json) → List String
  | [] => []
  | (k, j) :: fs => (quote k ++ ":" ++ compact j) :: compactFields fs

end

/-- `depth` levels of indentation after a line end. -/
def newLine (depth : Nat) : String := "\n" ++ String.ofList (List.replicate (2 * depth) ' ')

/-- Pieces between brackets, each on a line of its own one level deeper. -/
def bracketed (opening closing : String) (depth : Nat) (pieces : List String) : String :=
  if pieces.isEmpty then opening ++ closing
  else
    opening ++ newLine (depth + 1) ++ ("," ++ newLine (depth + 1)).intercalate pieces ++ newLine depth ++ closing

mutual

/-- A value on several lines, at a level of indentation. -/
def prettyAt (depth : Nat) : Json → String
  | .array items => bracketed "[" "]" depth (prettyItems (depth + 1) items)
  | .object fields => bracketed "\x7b" "\x7d" depth (prettyFields (depth + 1) fields)
  | .null => "null"
  | .bool b => if b then "true" else "false"
  | .int n => toString n
  | .number x => x.jsonText.getD "null"
  | .string s => quote s

/-- The items of an array at a level of indentation. -/
def prettyItems (depth : Nat) : List Json → List String
  | [] => []
  | j :: js => prettyAt depth j :: prettyItems depth js

/-- The fields of an object at a level of indentation. -/
def prettyFields (depth : Nat) : List (String × Json) → List String
  | [] => []
  | (k, j) :: fs => (quote k ++ ": " ++ prettyAt depth j) :: prettyFields depth fs

end

/-- A value on several lines. -/
def pretty (j : Json) : String := prettyAt 0 j

end SourceAudit.Json
