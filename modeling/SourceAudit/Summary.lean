import SourceAudit.Finding

/-!
# Summaries

`SeverityCounts` : how many findings have each severity.
`Summary` : what a report says about its findings in numbers.
-/

namespace SourceAudit

/-- How many findings have each severity. -/
structure SeverityCounts where
  critical : Nat := 0
  high : Nat := 0
  medium : Nat := 0
  low : Nat := 0
  info : Nat := 0
  deriving DecidableEq, Repr

namespace SeverityCounts

def count (c : SeverityCounts) : Severity → SeverityCounts
  | .critical => { c with critical := c.critical + 1 }
  | .high => { c with high := c.high + 1 }
  | .medium => { c with medium := c.medium + 1 }
  | .low => { c with low := c.low + 1 }
  | .info => { c with info := c.info + 1 }

def ofFindings (fs : List Finding) : SeverityCounts := fs.foldl (fun c f => c.count f.severity) {}

def toJson (c : SeverityCounts) : Json :=
  .object [("critical", .nat c.critical), ("high", .nat c.high), ("medium", .nat c.medium), ("low", .nat c.low),
    ("info", .nat c.info)]

end SeverityCounts

/-- Findings in numbers. -/
structure Summary where
  totalFiles : Nat
  filesWithFindings : Nat
  totalFindings : Nat
  bySeverity : SeverityCounts
  byCategory : SortedMap Nat

namespace Summary

def categories (fs : List Finding) : SortedMap Nat :=
  fs.foldl (fun m f => m.insert f.category ((m.get? f.category).getD 0 + 1)) {}

def ofFindings (fs : List Finding) (totalFiles : Nat) : Summary where
  totalFiles
  filesWithFindings := (sortedSet (fs.map (·.file))).members.length
  totalFindings := fs.length
  bySeverity := .ofFindings fs
  byCategory := categories fs

def fields (s : Summary) : List (String × Json) :=
  [("total_files", .nat s.totalFiles), ("files_with_findings", .nat s.filesWithFindings),
    ("total_findings", .nat s.totalFindings), ("by_severity", s.bySeverity.toJson),
    ("by_category", .ofMap .nat s.byCategory)]

end Summary

end SourceAudit
