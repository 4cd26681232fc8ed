import SourceAudit.Json.Basic

/-!
# Queries

A query selects places in a syntax tree. `Expr.pattern` selects the nodes of a `NodeMatcher`, `Expr.taint` the sinks
that data from a source reaches, and `Expr.logical` combines selections. A `Query` adds metadata to an expression.
-/

namespace SourceAudit.Query

/-- How the text of a pattern is understood. -/
inductive PatternKind where
  | literal
  | regex
  deriving DecidableEq, Repr

namespace PatternKind

def name : PatternKind → String
  | literal => "literal"
  | regex => "regex"

end PatternKind

/-- A pattern for the text of a node. -/
structure PatternSpec where
  kind : PatternKind
  value : String
  caseSensitive : Bool := true
  deriving DecidableEq, Repr

namespace PatternSpec

def literal (value : String) : PatternSpec := { kind := .literal, value }

def describe (spec : PatternSpec) : String :=
  match spec.kind with
  | .literal => "\"" ++ spec.value ++ "\""
  | .regex => "/" ++ spec.value ++ "/" ++ (if spec.caseSensitive then "" else "i")

end PatternSpec

/-- A node matches if its kind is listed and at least one pattern matches its text. -/
structure NodeMatcher where
  kinds : StringSet
  patterns : List PatternSpec
  deriving DecidableEq, Repr

/-- The operators that combine selections. -/
inductive LogicalOp where
  | and
  | or
  | not
  deriving DecidableEq, Repr

namespace LogicalOp

/-- The spelling in queries, paths and reports. -/
def name : LogicalOp → String
  | and => "AND"
  | or => "OR"
  | not => "NOT"

end LogicalOp

inductive Expr where
  | taint (source sink : NodeMatcher) (sanitizers : List NodeMatcher)
  | logical (op : LogicalOp) (operands : List Expr)
  | pattern (matcher : NodeMatcher) (reason : Option String)
  deriving Repr

namespace Expr

def kindName : Expr → String
  | taint .. => "taint"
  | logical .. => "logical"
  | pattern .. => "pattern"

end Expr

end SourceAudit.Query

namespace SourceAudit

/-- An expression and the metadata attached to it. -/
structure Query where
  expression : Query.Expr
  metadata : SortedMap Json := {}

end SourceAudit
