import SourceAudit.Config.Basic
import SourceAudit.Toml.DateText

/-!
# Configurations in documents

`Config.read` : the configuration that a document describes; what it does not say has its standard value.
`Config.unknownKeys` : a warning for each key of the document that means nothing.
-/

namespace SourceAudit.Config

open Document

def topKeys : List String := ["include", "exclude", "rules", "analysis"]

def ruleKeys : List String := ["disabled", "severity", "min_confidence", "paths"]

def analysisKeys : List String :=
  ["default_confidence", "legacy_confidence", "snippet_context", "optimizer_hints", "risk"]

def riskKeys : List String := ["critical", "high", "medium"]

/-! ## Reading -/

def readRisk : Reader Taint.RiskThresholds := fun d => do
  let standard : Taint.RiskThresholds := {}
  let r ← readFields (riskKeys.map fun k => [k]) d
  return {
    critical := ← r.withDefault "critical" readNatural standard.critical
    high := ← r.withDefault "high" readNatural standard.high
    medium := ← r.withDefault "medium" readNatural standard.medium }

def readAnalysis : Reader AnalysisOptions := fun d => do
  let standard : AnalysisOptions := {}
  let r ← readFields (analysisKeys.map fun k => [k]) d
  return {
    defaultConfidence := ← r.withDefault "default_confidence" readNumber standard.defaultConfidence
    legacyConfidence := ← r.withDefault "legacy_confidence" readNumber standard.legacyConfidence
    snippetContext := ← r.withDefault "snippet_context" readNatural standard.snippetContext
    optimizerHints := ← r.withDefault "optimizer_hints" readBool standard.optimizerHints
    risk := ← r.withDefault "risk" readRisk standard.risk }

def readRules : Reader RuleSettings := fun d => do
  let r ← readFields (ruleKeys.map fun k => [k]) d
  return {
    disabled := ← r.withDefault "disabled" (readList readString) []
    severity := SortedMap.ofList (← r.withDefault "severity" (readEntries (readNamed Severity.ofName?)) [])
    minConfidence := ← r.optional "min_confidence" readNumber
    paths := ← r.withDefault "paths" (readList readString) [] }

def read : Reader Config := fun d => do
  let r ← readFields (topKeys.map fun k => [k]) d
  return {
    includes := ← r.withDefault "include" (readList readString) []
    excludes := ← r.withDefault "exclude" (readList readString) []
    rules := ← r.withDefault "rules" readRules {}
    analysis := ← r.withDefault "analysis" readAnalysis {} }

/-! ## Unknown keys -/

/-- The entries of a table; nothing else has any. -/
def entriesOf : Document → List (String × Document)
  | .table _ es => es
  | _ => []

/-- The entries under a key of a table; a table that stands for a date has none. -/
def entriesUnder (es : List (String × Document)) (key : String) : List (String × Document) :=
  let found := ((es.lookup key).map entriesOf).getD []
  if Toml.standsForDate found then [] else found

/-- The keys of a table that are not known, in order. -/
def unknownIn (known : List String) (es : List (String × Document)) : List String :=
  (sortedSet (es.map (·.1))).members.filter fun key => !known.contains key

/-- A warning for each key of a document that means nothing. There are none if a table inside of the document stands
for a date that cannot be read. -/
def unknownKeys (d : Document) : List String :=
  let top := entriesOf d
  let analysis := entriesUnder top "analysis"
  let inSection (name : String) (known : List String) (es : List (String × Document)) : List String :=
    (unknownIn known es).map fun key => s!"Unknown config option in [{name}]: '{key}'"
  if Toml.entriesHaveFaultyDate top then []
  else
    (unknownIn topKeys top).map (fun key => s!"Unknown config option: '{key}'") ++
      inSection "rules" ruleKeys (entriesUnder top "rules") ++
      inSection "analysis" analysisKeys analysis ++
      inSection "analysis.risk" riskKeys (entriesUnder analysis "risk")

end SourceAudit.Config
