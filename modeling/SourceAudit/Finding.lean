import SourceAudit.Json.Basic
import SourceAudit.Location
import SourceAudit.Rule.Basic
import SourceAudit.Snippet

/-!
# Findings

A `Finding` is a place in a file where a rule was broken, with what the rule says about it. `Finding.ofRule` makes
one, and `Finding.toJson` shows it. Findings are told apart by an identifier that is made when they are shown.
-/

namespace SourceAudit

/-- A place where a rule was broken. -/
structure Finding where
  rule : String
  severity : Severity
  category : String
  title : String
  description : String
  file : String
  location : Location
  snippet : String
  fix : Fix
  confidence : Binary64
  cwe : Option String := none
  owasp : Option String := none
  /-- What the analysis adds, by name. -/
  extra : SortedMap Json := {}

/-- The recommendation of a rule that has none. -/
def genericFix : String := "Review and fix this security issue"

namespace Finding

def ofRule (rule : Rule) (file content : String) (location : Location) (context : Nat)
    (confidence : Binary64) : Finding where
  rule := rule.id
  severity := rule.severity
  category := rule.category
  title := rule.name
  description := rule.description
  file
  location
  snippet := SourceAudit.snippet content location.line context
  fix := rule.fix.getD { recommendation := genericFix }
  confidence := confidence.clampUnit
  cwe := rule.metadata.bind (·.cwe)
  owasp := rule.metadata.bind (·.owasp)

/-- Adds a value under a name, in place of one that is there. -/
def withExtra (f : Finding) (key : String) (value : Json) : Finding := { f with extra := f.extra.insert key value }

/-- Takes a recommendation, if there is one, for a finding that has only the generic one. -/
def withFallback (f : Finding) (recommendation : Option String) : Finding :=
  match recommendation with
  | some r => if f.fix.recommendation = genericFix then { f with fix := { f.fix with recommendation := r } } else f
  | none => f

def fixJson (fix : Fix) : Json :=
  .object ([("recommendation", .string fix.recommendation)] ++ Json.optionalField "before" .string fix.before ++
    Json.optionalField "after" .string fix.after ++ [("references", .strings fix.references)])

/-- A finding as a JSON value; its identifier is the rule with a suffix. -/
def toJson (suffix : String) (f : Finding) : Json :=
  .object [("id", .string (f.rule ++ "-" ++ suffix)), ("rule", .string f.rule), ("severity", .string f.severity.name),
    ("category", .string f.category), ("title", .string f.title), ("description", .string f.description),
    ("location", .object
      [("file", .string f.file), ("line", .nat f.location.line), ("column", .nat f.location.column)]),
    ("snippet", .string f.snippet), ("fix", fixJson f.fix),
    ("metadata", .object ([("confidence", .number f.confidence)] ++ Json.optionalField "cwe" .string f.cwe ++
      Json.optionalField "owasp" .string f.owasp ++ f.extra.entries))]

end Finding

/-- What an analysis found, and what it had to skip. -/
structure Report where
  findings : List Finding := []
  warnings : List String := []

namespace Report

def append (a b : Report) : Report := ⟨a.findings ++ b.findings, a.warnings ++ b.warnings⟩

instance : Append Report := ⟨append⟩

def concat (rs : List Report) : Report := ⟨rs.flatMap (·.findings), rs.flatMap (·.warnings)⟩

end Report

end SourceAudit
