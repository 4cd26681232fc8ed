import SourceAudit.Query.Expr
import SourceAudit.Regex.Parser
import SourceAudit.Text.Blank

/-!
# Validation

A query that parses may still make no sense: operators with too few operands, matchers without kinds or patterns,
regular expressions that cannot be read. `Expr.violations` lists what is wrong, each with the path of the part it is
found in.
-/

namespace SourceAudit.Query

/-- What can be wrong with a part of a query. -/
inductive Violation where
  | tooFewOperands (op : LogicalOp) (count : Nat)
  | notOneOperand (count : Nat)
  | notNeedsClosedWorld
  | noKinds
  | blankKind
  | noPatterns
  | emptyLiteral
  | invalidRegex (spec : PatternSpec) (error : Regex.Error)

namespace Violation

def message : Violation → String
  | tooFewOperands op count => s!"{op.name} requires at least 2 operands, found {count}"
  | notOneOperand count => s!"NOT requires exactly 1 operand, found {count}"
  | notNeedsClosedWorld => "NOT needs a closed-world node set and cannot be evaluated here"
  | noKinds => "at least one node kind is required"
  | blankKind => "node kinds must not be blank"
  | noPatterns => "at least one pattern is required"
  | emptyLiteral => "literal patterns must not be empty"
  | invalidRegex spec error => s!"invalid regex {spec.describe}: {error.message}"

end Violation

/-- A violation and the path of the part it is found in. -/
structure Located where
  path : String
  violation : Violation

namespace Located

def message (l : Located) : String := s!"{l.path}: {l.violation.message}"

end Located

namespace PatternSpec

def compile (spec : PatternSpec) : Except Regex.Error Regex := Regex.parse spec.value !spec.caseSensitive

def violations (spec : PatternSpec) : List Violation :=
  match spec.kind with
  | .literal => if spec.value.isEmpty then [.emptyLiteral] else []
  | .regex =>
    match spec.compile with
    | .ok _ => []
    | .error e => [.invalidRegex spec e]

end PatternSpec

namespace NodeMatcher

def violations (m : NodeMatcher) : List Violation :=
  (if m.kinds.members.isEmpty then [.noKinds] else []) ++
  (if m.kinds.members.any fun k => Text.allBlank k.toList then [.blankKind] else []) ++
  (if m.patterns.isEmpty then [.noPatterns] else []) ++
  m.patterns.flatMap PatternSpec.violations

def violationsAt (m : NodeMatcher) (path : String) : List Located := m.violations.map (⟨path, ·⟩)

end NodeMatcher

/-- What is wrong with the number of operands. NOT needs `closedWorld`: all nodes that there are. -/
def operandViolations (closedWorld : Bool) (op : LogicalOp) (count : Nat) : List Violation :=
  match op with
  | .and | .or => if count < 2 then [.tooFewOperands op count] else []
  | .not => if count ≠ 1 then [.notOneOperand count] else if closedWorld then [] else [.notNeedsClosedWorld]

mutual

/-- What is wrong with an expression, from the outside to the inside and from left to right. -/
def Expr.violations (closedWorld : Bool) (path : String) : Expr → List Located
  | .taint source sink sanitizers =>
    source.violationsAt (path ++ ".source") ++ sink.violationsAt (path ++ ".sink") ++
      sanitizers.zipIdx.flatMap fun (m, i) => m.violationsAt s!"{path}.sanitizer[{i}]"
  | .logical op operands =>
    (operandViolations closedWorld op operands.length).map (⟨path, ·⟩) ++
      Expr.operandsViolations closedWorld s!"{path}.{op.name}" 0 operands
  | .pattern matcher _ => matcher.violationsAt (path ++ ".pattern")

/-- What is wrong with operands, of which the first has the given number. -/
def Expr.operandsViolations (closedWorld : Bool) (path : String) (i : Nat) : List Expr → List Located
  | [] => []
  | e :: es => e.violations closedWorld s!"{path}[{i}]" ++ Expr.operandsViolations closedWorld path (i + 1) es

end

def violations (q : Query) (closedWorld : Bool := false) : List Located := q.expression.violations closedWorld "query"

end SourceAudit.Query
