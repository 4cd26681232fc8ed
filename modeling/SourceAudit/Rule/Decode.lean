import SourceAudit.Document.Outline
import SourceAudit.Rule.Basic

/-!
# Rules in documents

`rulesFile` reads the rules of a document, which has them in a list under `rules`. `rulesOutline` says what it reads.
-/

namespace SourceAudit.Rule

open Document

/-- A pattern. Its text may also go by the name `pattern`. -/
def readPattern : Reader RulePattern := fun d => do
  let r ← readFields [["kind"], ["value", "pattern"], ["case_sensitive"]] d
  return {
    kind := ← r.required "kind" (readNamed RulePatternKind.ofName?)
    value := ← r.required "value" readString
    caseSensitive := ← r.withDefault "case_sensitive" readBool true }

def readFix : Reader Fix := fun d => do
  let r ← readFields [["recommendation"], ["before"], ["after"], ["references"]] d
  return {
    recommendation := ← r.required "recommendation" readString
    before := ← r.optional "before" readString
    after := ← r.optional "after" readString
    references := ← r.withDefault "references" (readList readString) [] }

def readMetadata : Reader RuleMetadata := fun d => do
  let r ← readFields [["confidence"], ["cwe"], ["owasp"], ["tags"]] d
  return {
    confidence := ← r.optional "confidence" readNumber
    cwe := ← r.optional "cwe" readString
    owasp := ← r.optional "owasp" readString
    tags := ← r.withDefault "tags" (readList readString) [] }

def read : Reader Rule := fun d => do
  let r ← readFields [["id"], ["name"], ["description"], ["severity"], ["category"], ["patterns"], ["languages"],
      ["enabled"],
    ["fix"], ["metadata"]] d
  return {
    id := ← r.required "id" readString
    name := ← r.required "name" readString
    description := ← r.withDefault "description" readString ""
    severity := ← r.required "severity" (readNamed Severity.ofName?)
    category := ← r.withDefault "category" readString "security"
    patterns := ← r.required "patterns" (readList readPattern)
    languages := ← r.withDefault "languages" (readList readString) []
    enabled := ← r.withDefault "enabled" readBool true
    fix := ← r.optional "fix" readFix
    metadata := ← r.optional "metadata" readMetadata }

def patternOutline : Outline := .record (.ofList (Outline.values ["kind", "value", "pattern", "case_sensitive"]))

def fixOutline : Outline :=
  .record (.ofList (Outline.values ["recommendation", "before", "after"] ++ [("references", .list .value)]))

/-- What is read of what else is known. -/
def metadataOutline : Outline :=
  .record (.ofList (Outline.values ["confidence", "cwe", "owasp"] ++ [("tags", .list .value)]))

def outline : Outline :=
  .record (.ofList (Outline.values ["id", "name", "description", "severity", "category", "enabled"] ++
    [("patterns", .list patternOutline), ("languages", .list .value), ("fix", fixOutline),
      ("metadata", metadataOutline)]))

def rulesOutline : Outline := .record (.ofList [("rules", .list outline)])

def rulesFile : Reader (List Rule) := fun d => do
  (← readFields [["rules"]] d).withDefault "rules" (readList read) []

end SourceAudit.Rule
