import SourceAudit.Query.Matcher
import SourceAudit.Taint.Risk
import SourceAudit.Taint.Sink

/-!
# Flows from sources to sinks

`flows` pairs every source with every sink on its line or a later one, unless a sanitizer stands strictly between the
two.
-/

namespace SourceAudit.Taint

open Query (NodeMatcher)

/-- A flow from a source to a sink. -/
structure Flow where
  source : SyntaxNode
  sink : SyntaxNode
  /-- The number of lines between them. -/
  distance : Nat
  risk : RiskLevel
  category : SinkCategory

namespace Flow

def path (f : Flow) : List String := ["source: " ++ f.source.describe, "sink: " ++ f.sink.describe]

def recommendations (f : Flow) : List String := f.category.recommendations

def between (thresholds : RiskThresholds) (source sink : SyntaxNode) : Flow :=
  let distance := sink.start.line - source.start.line
  { source, sink, distance, risk := thresholds.classify distance, category := .ofText sink.text }

end Flow

def selected (matchers : List NodeMatcher) (tree : SyntaxTree) : List SyntaxNode :=
  let ready := matchers.map NodeMatcher.ready
  tree.nodes.toList.filter fun node => ready.any fun m => m.selects node

/-- Whether one of the places, which are in order, lies strictly between `a` and `b`: the first after the earlier of
the two decides. -/
def isSanitized (places : List Location) (a b : Location) : Bool :=
  match places.find? fun p => (a.earlier b).precedes p with
  | some p => p.precedes (a.later b)
  | none => false

def flows (thresholds : RiskThresholds) (sources sinks sanitizers : List NodeMatcher) (tree : SyntaxTree) : List Flow :=
  let sinkNodes := selected sinks tree
  let places := ((selected sanitizers tree).map (·.start)).mergeSort fun a b => !b.precedes a
  (selected sources tree).flatMap fun source =>
    (sinkNodes.filter fun sink =>
      source.start.line ≤ sink.start.line && !isSanitized places source.start sink.start).map
        (Flow.between thresholds.kept source)

end SourceAudit.Taint
