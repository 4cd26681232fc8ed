import SourceAudit.Text.Blank
import SourceAudit.Text.Lines

/-!
# Snippets

`snippet` shows a few lines around a line of a text, numbered, with a mark at that line.
-/

namespace SourceAudit

/-- A text with spaces in front, so that it is at least `width` characters wide. -/
def padLeft (width : Nat) (s : String) : String := String.ofList (List.replicate (width - s.length) ' ') ++ s

/-- A text with spaces after it, so that it is at least `width` characters wide. -/
def padRight (width : Nat) (s : String) : String := s ++ String.ofList (List.replicate (width - s.length) ' ')

/-- A numbered line of a snippet, with a mark if it is the line that the snippet is about. -/
def snippetLine (width line : Nat) (entry : List Char × Nat) : String :=
  let number := entry.2
  (if number = line then "> " else "  ") ++ padLeft width (toString number) ++ " | " ++
    String.ofList (Text.trimEnd entry.1)

/-- The lines at most `context` away from a line; nothing if there is no such line. -/
def snippet (content : String) (line context : Nat) : String :=
  let lines := Text.lines content.toList
  if line = 0 || lines.length < line then ""
  else
    let first := max (line - context) 1
    let last := min (line + context) lines.length
    let shown := ((lines.zipIdx 1).drop (first - 1)).take (last + 1 - first)
    Text.joinLines (shown.map (snippetLine (toString last).length line))

end SourceAudit
