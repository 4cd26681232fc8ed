import SourceAudit.Finding
import SourceAudit.LegacyPattern
import SourceAudit.Query.Prepare
import SourceAudit.Query.Recognize
import SourceAudit.Taint.Flow

/-!
# Analysis of a file

`analyze` runs the queries of a rule over a file. Each pattern is a query or has one of the older forms; one that
cannot be run is skipped with a warning, and the others still run.

`evaluate` : the findings of a query. Logical operators combine findings by their places: OR takes all, AND those of the
first operand at places where every other operand has one, and NOT none, with a warning.
-/

namespace SourceAudit

structure AnalysisOptions where
  defaultConfidence : Binary64 := Query.defaultConfidence
  legacyConfidence : Binary64 := Binary64.ofDecimal false 6 (-1)
  snippetContext : Nat := 2
  optimizerHints : Bool := true
  risk : Taint.RiskThresholds := {}
  deriving DecidableEq, Repr

namespace Analysis

/-- A file under analysis by a rule. -/
structure Context where
  options : AnalysisOptions
  file : String
  content : String
  tree : SyntaxTree
  rule : Rule

namespace Context

def confidence (ctx : Context) : Binary64 := (ctx.rule.confidence.getD ctx.options.defaultConfidence).clampUnit

def finding (ctx : Context) (location : Location) (confidence : Binary64) : Finding :=
  .ofRule ctx.rule ctx.file ctx.content location ctx.options.snippetContext confidence

def flowFinding (ctx : Context) (flow : Taint.Flow) : Finding :=
  let lines := s!"from line {flow.source.start.line} to line {flow.sink.start.line}."
  let description := s!"{ctx.rule.description} Untrusted data flows {lines}"
  let base := { ctx.finding flow.sink.start ctx.confidence with
    severity := flow.risk.severity
    description := String.ofList (Text.trimStart description.toList) }
  ((((((base.withFallback flow.recommendations[1]?).withExtra "taintFlow" (.strings flow.path)).withExtra
    "riskLevel" (.string flow.risk.name)).withExtra
    "flowDistance" (.nat flow.distance)).withExtra
    "sinkCategory" (.string flow.category.name)).withExtra
    "recommendations" (.strings flow.recommendations))

def matchFinding (ctx : Context) (m : Query.PatternMatch) : Finding :=
  (ctx.finding m.location m.confidence).withExtra "matchReason" (.string m.reason)

def legacyFinding (ctx : Context) (pattern : String) (hit : LegacyPattern.Hit) : Finding :=
  let base := ((ctx.finding hit.location ctx.options.legacyConfidence).withExtra
    "legacyPattern" (.string pattern)).withExtra "matchReason" (.string hit.reason)
  match hit.target with
  | some v => base.withExtra "variable" (.string v)
  | none => base

end Context

/-- The findings of the first list at places where every other list has one; where a list is empty, there are none. -/
def intersectByLocation (lists : List (List Finding)) : List Finding :=
  if lists.any (·.isEmpty) then []
  else
    match lists with
    | [] => []
    | first :: others => first.filter fun f => others.all fun fs => fs.any fun g => g.location = f.location

def notWarning (rule : Rule) : String := s!"rule {rule.id}: NOT is unsupported and contributes no findings"

mutual

def evaluate (ctx : Context) : Query.Expr → Report
  | .taint source sink sanitizers =>
    { findings := (Taint.flows ctx.options.risk [source] [sink] sanitizers ctx.tree).map ctx.flowFinding }
  | .pattern matcher reason =>
    { findings := (Query.matchPattern ctx.confidence matcher reason ctx.tree).map ctx.matchFinding }
  | .logical .not _ => { warnings := [notWarning ctx.rule] }
  | .logical .and operands =>
    let reports := evaluateAll ctx operands
    ⟨intersectByLocation (reports.map (·.findings)), reports.flatMap (·.warnings)⟩
  | .logical .or operands => Report.concat (evaluateAll ctx operands)

/-- The findings of each of several expressions. -/
def evaluateAll (ctx : Context) : List Query.Expr → List Report
  | [] => []
  | e :: es => evaluate ctx e :: evaluateAll ctx es

end

/-- The findings of a pattern, or why it cannot be run. -/
def runPattern (ctx : Context) (pattern : String) : Except String Report :=
  if Query.looksLikeQuery pattern then
    match Query.prepare ctx.options.optimizerHints pattern with
    | .ok q => .ok (evaluate ctx q.expression)
    | .error e => .error e.message
  else
    match LegacyPattern.parse pattern with
    | .ok p => .ok { findings := (p.run ctx.tree ctx.content).map (ctx.legacyFinding pattern) }
    | .error e => .error e.message

def patternReport (ctx : Context) (number : Nat) (p : RulePattern) : Report :=
  match p.kind with
  | .query =>
    match runPattern ctx p.value with
    | .ok report => report
    | .error message => { warnings := [s!"rule {ctx.rule.id}: skipping pattern {number}: {message}"] }
  | _ => {}

end Analysis

/-- Runs the queries of a rule over a file. -/
def analyze (options : AnalysisOptions) (file content : String) (tree : SyntaxTree) (rule : Rule) : Report :=
  let ctx : Analysis.Context := { options, file, content, tree, rule }
  .concat ((rule.patterns.zipIdx 1).map fun (p, number) => Analysis.patternReport ctx number p)

end SourceAudit
