import SourceAudit.Text.Ascii
import SourceAudit.Text.RangeTable

/-!
# Named tables of code points

A `NamedTable` is a table of code points under one or more names. `NamedTable.ofText` reads the ranges from a text such
as `41-5A 61-7A AA`, in hexadecimal.
-/

namespace SourceAudit.Regex

/-- A table of code points and the names it goes by, in lower case and without separators. -/
structure NamedTable where
  names : List String
  table : Text.RangeTable

namespace NamedTable

/-- Reads ranges: `first` and `last` are the ends of the range being read, and `single` holds until a hyphen comes. -/
def readRanges (acc : Text.RangeTable) (first last : Nat) (single : Bool) : List Char → Text.RangeTable
  | [] => acc.push (first, last)
  | ' ' :: cs => readRanges (acc.push (first, last)) 0 0 true cs
  | '-' :: cs => readRanges acc first 0 false cs
  | c :: cs =>
    let d := (Text.hexValue? c).getD 0
    if single then readRanges acc (16 * first + d) (16 * first + d) true cs
    else readRanges acc first (16 * last + d) false cs

def tableOfText (lines : List String) : Text.RangeTable :=
  readRanges #[] 0 0 true (" ".intercalate lines).toList

/-- The table of lines of ranges, under its names. -/
def ofText (entry : List String × List String) : NamedTable := ⟨entry.1, tableOfText entry.2⟩

def lookup? (tables : List NamedTable) (name : String) : Option Text.RangeTable :=
  (tables.find? (·.names.contains name)).map (·.table)

end NamedTable

end SourceAudit.Regex
