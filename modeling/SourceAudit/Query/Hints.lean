import SourceAudit.Query.Expr

/-!
# Execution hints

`Query.withHints` records in the metadata how a query could be run faster. Nothing else of the query changes, and no
evaluation reads the hints.
-/

namespace SourceAudit.Query

namespace Expr

mutual

def patternCount : Expr → Nat
  | .taint source sink sanitizers =>
    source.patterns.length + sink.patterns.length + (sanitizers.map (·.patterns.length)).sum
  | .logical _ operands => patternCounts operands
  | .pattern matcher _ => matcher.patterns.length

def patternCounts : List Expr → Nat
  | [] => 0
  | e :: es => patternCount e + patternCounts es

end

def isConjunction : Expr → Bool
  | .logical .and _ => true
  | _ => false

/-- The node kinds of the operands that are plain patterns, operand by operand. -/
def directKinds : List Expr → List String
  | [] => []
  | .pattern matcher _ :: es => matcher.kinds.members ++ directKinds es
  | _ :: es => directKinds es

def hasRepetition : List String → Bool
  | [] => false
  | s :: ss => ss.contains s || hasRepetition ss

/-- Whether two operands that are plain patterns share a node kind. -/
def hasSimilarOperands : Expr → Bool
  | .logical _ operands => hasRepetition (directKinds operands)
  | _ => false

end Expr

/-- From this number of patterns on an index pays. -/
def indexingThreshold : Nat := 4

/-- Adds the three hints to the metadata. -/
def withHints (q : Query) : Query :=
  { q with
    metadata :=
      ((q.metadata.insert "useIndexing" (.bool (indexingThreshold ≤ q.expression.patternCount))).insert
        "preferEarlyExit" (.bool q.expression.isConjunction)).insert
        "batchSimilarPatterns" (.bool q.expression.hasSimilarOperands) }

end SourceAudit.Query
