import SourceAudit.Binary64.Printer
import SourceAudit.Cli.Style
import SourceAudit.Json.Printer
import SourceAudit.Path
import SourceAudit.Summary

/-!
# Reports of scans

`textReport` : findings for a reader.
`jsonReport` : findings as one JSON document.
`recordReport` : findings as JSON records, one on each line: about the scan, for each finding, and a summary.
-/

namespace SourceAudit.Cli

/-- The lines of a text, each ended by a line feed. -/
def linesText (lines : List String) : String := String.join (lines.map (· ++ "\n"))

/-! ## For a reader -/

def severityStyle : Severity → Style
  | .critical => .boldRed
  | .high => .red
  | .medium => .yellow
  | .low => .blue
  | .info => .cyan

def findingLines (t : Terminal) (snippets : Bool) (f : Finding) : List String :=
  let label := t.paint (severityStyle f.severity) f.severity.name
  let rule := t.paint .dimmed f.rule
  [s!"{f.file}:{f.location.line}:{f.location.column}: {label} [{rule}] {f.title}"] ++
    (if f.description = "" then [] else ["  " ++ f.description]) ++
    (if snippets then (Text.linesOf f.snippet).map fun line => "    " ++ t.paint .dimmed line else []) ++
    ["  " ++ t.paint .green "fix:" ++ " " ++ f.fix.recommendation,
      "  " ++ t.paint .dimmed "confidence:" ++ " " ++ f.confidence.fixed 2,
      ""]

def closingLine (t : Terminal) (s : Summary) : String :=
  let c := s.bySeverity
  if s.totalFindings = 0 then t.paint .boldGreen "ok:" ++ s!" No findings in {s.totalFiles} file(s)"
  else
    s!"Found {s.totalFindings} finding(s) in {s.totalFiles} file(s): {c.critical} critical, {c.high} high, " ++
      s!"{c.medium} medium, {c.low} low, {c.info} info"

def textReport (t : Terminal) (snippets : Bool) (fs : List Finding) (totalFiles : Nat) : String :=
  linesText (fs.flatMap (findingLines t snippets) ++ [closingLine t (.ofFindings fs totalFiles)])

/-! ## For programs -/

/-- Where a report comes from. -/
structure Origin where
  workingDirectory : Path
  analyzedPath : Path

def programVersion : String := "0.1.0"

def versionText : String := "vibesec " ++ programVersion ++ "\n"

/-- Where a report comes from, as the fields of a JSON value. -/
def Origin.fields (o : Origin) : List (String × Json) :=
  [("vibesec_version", .string programVersion), ("working_directory", .string o.workingDirectory),
    ("analyzed_path", .string o.analyzedPath)]

/-- Findings as JSON values; `suffix` gives each its own identifier. -/
def findingValues (suffix : Nat → String) (fs : List Finding) : List Json :=
  fs.zipIdx.map fun (f, i) => f.toJson (suffix i)

def jsonReport (suffix : Nat → String) (o : Origin) (fs : List Finding) (totalFiles : Nat) : String :=
  (Json.object [("version", .string "1.0"), ("metadata", .object o.fields),
    ("summary", .object (Summary.ofFindings fs totalFiles).fields),
    ("findings", .array (findingValues suffix fs))]).pretty ++ "\n"

def fieldsOf : Json → List (String × Json)
  | .object fields => fields
  | _ => []

def recordLine (type : String) (fields : List (String × Json)) : String :=
  (Json.object (("type", .string type) :: fields)).compact

/-- Findings as JSON records, one on each line. -/
def recordReport (suffix : Nat → String) (o : Origin) (fs : List Finding) (totalFiles : Nat) : String :=
  linesText ([recordLine "metadata" o.fields] ++
    (findingValues suffix fs).map (fun f => recordLine "finding" (fieldsOf f)) ++
    [recordLine "summary" (Summary.ofFindings fs totalFiles).fields])

end SourceAudit.Cli
