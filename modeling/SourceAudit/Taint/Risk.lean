import SourceAudit.Severity

/-!
# Risk by distance

The closer a sink is to its source, the higher the risk. `RiskThresholds.classify` gives the risk for a distance in
lines; thresholds that are not ascending are replaced by `RiskThresholds.standard`.
-/

namespace SourceAudit.Taint

inductive RiskLevel where
  | low
  | medium
  | high
  | critical
  deriving DecidableEq, Repr

namespace RiskLevel

def name : RiskLevel → String
  | low => "low"
  | medium => "medium"
  | high => "high"
  | critical => "critical"

def rank : RiskLevel → Nat
  | low => 0
  | medium => 1
  | high => 2
  | critical => 3

def severity : RiskLevel → Severity
  | low => .low
  | medium => .medium
  | high => .high
  | critical => .critical

end RiskLevel

/-- The greatest distance, in lines, for each level of risk. -/
structure RiskThresholds where
  critical : Nat := 3
  high : Nat := 10
  medium : Nat := 25
  deriving DecidableEq, Repr

namespace RiskThresholds

/-- The thresholds unless others are given. -/
def standard : RiskThresholds := {}

/-- Whether a shorter distance never has a lower risk. -/
def isMonotonic (t : RiskThresholds) : Bool := t.critical ≤ t.high && t.high ≤ t.medium

def classify (t : RiskThresholds) (distance : Nat) : RiskLevel :=
  if distance ≤ t.critical then .critical
  else if distance ≤ t.high then .high
  else if distance ≤ t.medium then .medium
  else .low

/-- The thresholds that are used: the given ones if they are ascending. -/
def kept (t : RiskThresholds) : RiskThresholds := if t.isMonotonic then t else standard

end RiskThresholds

end SourceAudit.Taint
