/-!
# Lines

`lines cs` splits a text at line feeds. A carriage return directly before a line feed belongs to the line end; any
other carriage return is an ordinary character. A text that ends with a line end has no further empty line.
-/

namespace SourceAudit.Text

/-- The lines of a text, without their line ends. -/
def lines : List Char → List (List Char)
  | [] => []
  | '\n' :: cs => [] :: lines cs
  | '\r' :: '\n' :: cs => [] :: lines cs
  | c :: cs =>
    match lines cs with
    | [] => [[c]]
    | l :: ls => (c :: l) :: ls

def linesOf (s : String) : List String := (lines s.toList).map String.ofList

def joinLines (ls : List String) : String := "\n".intercalate ls

end SourceAudit.Text
