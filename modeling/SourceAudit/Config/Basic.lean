import SourceAudit.Analysis
import SourceAudit.Path
import SourceAudit.PathFilter
import SourceAudit.SortedMap

/-!
# Configurations

`Config` : which files to scan, which rules to run and how.
-/

namespace SourceAudit

structure RuleSettings where
  /-- The identifiers of rules that are not run. -/
  disabled : List String := []
  /-- Severities that take the place of those of the rules, by identifier. -/
  severity : SortedMap Severity := {}
  /-- The least confidence of a finding that is reported. -/
  minConfidence : Option Binary64 := none
  /-- More rule files. -/
  paths : List Path := []
  deriving DecidableEq, Repr

structure Config where
  /-- Patterns of paths to scan; none means all. -/
  includes : List String := []
  /-- Patterns of paths to leave out. -/
  excludes : List String := []
  rules : RuleSettings := {}
  analysis : AnalysisOptions := {}
  deriving DecidableEq, Repr

namespace Config

def isDisabled (c : Config) (id : String) : Bool := c.rules.disabled.contains id

def pathFilter (c : Config) : PathFilter := PathFilter.ofPatterns c.includes c.excludes

def severityOf (c : Config) (id : String) (given : Severity) : Severity := (c.rules.severity.get? id).getD given

end Config

end SourceAudit
