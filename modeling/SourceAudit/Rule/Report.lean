import SourceAudit.Json.Basic
import SourceAudit.Rule.Basic

/-!
# Rules as JSON values

`Rule.toJson` shows a rule with all its fields.
-/

namespace SourceAudit

def RulePattern.toJson (p : RulePattern) : Json :=
  .object [("kind", .string p.kind.name), ("value", .string p.value), ("case_sensitive", .bool p.caseSensitive)]

def Fix.toJson (f : Fix) : Json :=
  .object [("recommendation", .string f.recommendation), ("before", Json.ofOption .string f.before),
    ("after", Json.ofOption .string f.after), ("references", .strings f.references)]

/-- What else is known, as a JSON value. -/
def RuleMetadata.toJson (m : RuleMetadata) : Json :=
  .object [("confidence", Json.ofOption .number m.confidence), ("cwe", Json.ofOption .string m.cwe),
    ("owasp", Json.ofOption .string m.owasp), ("tags", .strings m.tags)]

def Rule.toJson (r : Rule) : Json :=
  .object [("id", .string r.id), ("name", .string r.name), ("description", .string r.description),
    ("severity", .string r.severity.name), ("category", .string r.category),
    ("patterns", .array (r.patterns.map RulePattern.toJson)), ("languages", .strings r.languages),
    ("enabled", .bool r.enabled), ("fix", Json.ofOption Fix.toJson r.fix),
    ("metadata", Json.ofOption RuleMetadata.toJson r.metadata)]

end SourceAudit
