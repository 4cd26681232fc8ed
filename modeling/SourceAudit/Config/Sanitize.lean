import SourceAudit.Binary64.Printer
import SourceAudit.Config.Basic

/-!
# Values out of range

`Config.sanitize` replaces or drops what a configuration must not hold, with a warning for each.
-/

namespace SourceAudit.Config

/-- A confidence, or the one to use if it is out of range. -/
def repairConfidence (name : String) (x standard : Binary64) : Binary64 × List String :=
  if x.inUnitRange then (x, [])
  else (standard, [s!"analysis.{name} {x.positional} is outside [0, 1]; using {standard.positional}"])

/-- Thresholds, or the standard ones if they are not ascending. -/
def repairRisk (t : Taint.RiskThresholds) : Taint.RiskThresholds × List String :=
  if t.isMonotonic then (t, [])
  else (.standard, ["analysis.risk thresholds must satisfy critical <= high <= medium; using defaults"])

def globWarning? (field pattern : String) : Option String :=
  let normal := PathFilter.normalize pattern
  match Glob.parse normal with
  | .ok _ => none
  | .error e => some s!"{field} pattern '{pattern}' is not a valid glob ({e.message normal}); ignoring it"

def repairPatterns (field : String) (patterns : List String) : List String × List String :=
  (patterns.filter fun p => (globWarning? field p).isNone, patterns.filterMap (globWarning? field))

/-- A least confidence, unless it is out of range. -/
def repairMinimum : Option Binary64 → Option Binary64 × List String
  | none => (none, [])
  | some x =>
    if x.inUnitRange then (some x, [])
    else (none, [s!"rules.min_confidence {x.positional} is outside [0, 1]; ignoring it"])

/-- Replaces or drops what is out of range, with a warning for each. -/
def sanitize (c : Config) : Config × List String :=
  let standard : AnalysisOptions := {}
  let (defaultConfidence, w₁) :=
    repairConfidence "default_confidence" c.analysis.defaultConfidence standard.defaultConfidence
  let (legacyConfidence, w₂) :=
    repairConfidence "legacy_confidence" c.analysis.legacyConfidence standard.legacyConfidence
  let (risk, w₃) := repairRisk c.analysis.risk
  let (includes, w₄) := repairPatterns "include" c.includes
  let (excludes, w₅) := repairPatterns "exclude" c.excludes
  let (minConfidence, w₆) := repairMinimum c.rules.minConfidence
  ({ includes, excludes,
     rules := { c.rules with minConfidence },
     analysis := { c.analysis with defaultConfidence, legacyConfidence, risk } },
   w₁ ++ w₂ ++ w₃ ++ w₄ ++ w₅ ++ w₆)

end SourceAudit.Config
