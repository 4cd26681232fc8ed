import SourceAudit.Finding
import SourceAudit.Regex.Parser
import SourceAudit.Text.Lowercase
import SourceAudit.Text.Search

/-!
# Line by line

`Baseline.analyze` compares the lines of a file with the literals and regular expressions of a rule. A line gives at
most one finding, where the first pattern that matches it is found. Comments are trusted a little less.
-/

namespace SourceAudit.Baseline

/-- A pattern made ready for use. -/
inductive LinePattern where
  | literal (needle : List Char)
  /-- A literal in lower case, compared with lines in lower case. -/
  | foldedLiteral (needle : List Char)
  | regex (r : Regex)

namespace LinePattern

/-- The byte offset of the first match in a line. The offset of a folded literal is that in the line in lower case. -/
def find? (line : List Char) : LinePattern → Option Nat
  | literal needle => Text.find? needle line
  | foldedLiteral needle => Text.find? needle (Text.lowercase line)
  | regex r => (r.find? line).map (·.start)

end LinePattern

/-- The warning about a regular expression that cannot be read. -/
def regexWarning (rule : Rule) (value : String) (e : Regex.Error) : String :=
  s!"rule {rule.id}: skipping invalid regex '{value}': {e.message}"

/-- Makes a pattern ready; queries are left out, and so are regular expressions that cannot be read. -/
def ready (rule : Rule) (p : RulePattern) : Except String (Option LinePattern) :=
  match p.kind with
  | .query => .ok none
  | .literal =>
    .ok (some (if p.caseSensitive then .literal p.value.toList else .foldedLiteral (Text.lowercase p.value.toList)))
  | .regex =>
    match Regex.parse p.value !p.caseSensitive with
    | .ok r => .ok (some (.regex r))
    | .error e => .error (regexWarning rule p.value e)

def usable (rule : Rule) : List LinePattern :=
  rule.patterns.filterMap fun p =>
    match ready rule p with
    | .ok q => q
    | .error _ => none

/-- The warnings about the others. -/
def skipped (rule : Rule) : List String :=
  rule.patterns.filterMap fun p =>
    match ready rule p with
    | .ok _ => none
    | .error warning => some warning

def isComment (line : List Char) : Bool :=
  let rest := Text.trimStart line
  ["#", "//", "/*", "*", "--"].any fun mark => mark.toList.isPrefixOf rest

/-- How much less a comment is trusted. -/
def commentPenalty : Binary64 := Binary64.ofDecimal false 1 (-1)

/-- The column of a byte offset; an offset that is no place of the line counts as its own column. -/
def columnAt (line : List Char) (offset : Nat) : Nat := (Text.columnAt? line offset).getD (offset + 1)

/-- The column of the first match of the first pattern that matches a line. -/
def columnIn? (patterns : List LinePattern) (line : List Char) : Option Nat :=
  (patterns.findSome? fun p => p.find? line).map (columnAt line)

def finding (confidence : Binary64) (context : Nat) (file content : String) (rule : Rule) (line : List Char)
    (location : Location) : Finding :=
  let confidence := rule.confidence.getD confidence.clampUnit
  .ofRule rule file content location context (if isComment line then confidence.sub commentPenalty else confidence)

/-- Compares the lines of a file with the patterns of a rule. -/
def analyze (confidence : Binary64) (context : Nat) (file content : String) (rule : Rule) : Report :=
  let patterns := usable rule
  let findings := ((Text.lines content.toList).zipIdx 1).filterMap fun (line, number) =>
    (columnIn? patterns line).map fun column => finding confidence context file content rule line ⟨number, column⟩
  ⟨findings, skipped rule⟩

end SourceAudit.Baseline
