import SourceAudit.Query.Expr

/-!
# Queries as JSON values

`Query.toJson` is the form in which a query is shown, with its fields in a fixed order.
-/

namespace SourceAudit.Query

def PatternSpec.toJson (spec : PatternSpec) : Json :=
  .object [("kind", .string spec.kind.name), ("value", .string spec.value),
    ("case_sensitive", .bool spec.caseSensitive)]

def NodeMatcher.toJson (m : NodeMatcher) : Json :=
  .object [("node_kinds", .strings m.kinds.members), ("patterns", .array (m.patterns.map PatternSpec.toJson))]

mutual

def Expr.toJson : Expr → Json
  | .taint source sink sanitizers =>
    .object [("type", .string "taint"), ("source", source.toJson), ("sink", sink.toJson),
      ("sanitizers", .array (sanitizers.map NodeMatcher.toJson))]
  | .logical op operands =>
    .object [("type", .string "logical"), ("operator", .string op.name), ("operands", .array (Expr.toJsons operands))]
  | .pattern matcher reason =>
    .object ([("type", .string "pattern"), ("matcher", matcher.toJson)] ++ Json.optionalField "reason" .string reason)

def Expr.toJsons : List Expr → List Json
  | [] => []
  | e :: es => e.toJson :: Expr.toJsons es

end

def toJson (q : Query) : Json :=
  .object [("expression", q.expression.toJson), ("metadata", .ofMap id q.metadata)]

end SourceAudit.Query
