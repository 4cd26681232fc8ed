import SourceAudit.Cli.Listing
import SourceAudit.Query.Prepare
import SourceAudit.Query.Recognize
import SourceAudit.Query.Report

/-!
# Explanations

`ruleText` : a rule with all that is known about it.
`queryText` : a query in the form in which it is run.
-/

namespace SourceAudit.Cli

def fieldLine (t : Terminal) (name value : String) : String := "  " ++ t.paint .cyan name ++ ": " ++ value

def kindWord (p : RulePattern) : String :=
  match p.kind with
  | .regex => "regex"
  | .literal => "literal"
  | .query => if Query.looksLikeQuery p.value then "eql" else "legacy"

/-- The line about a query that cannot be run. -/
def invalidLines (t : Terminal) (hints : Bool) (p : RulePattern) : List String :=
  if kindWord p = "eql" then
    match Query.prepare hints p.value with
    | .ok _ => []
    | .error e => ["       " ++ t.paint .red "invalid:" ++ " " ++ e.message]
  else []

def patternLines (t : Terminal) (hints : Bool) (p : RulePattern) (number : Nat) : List String :=
  [s!"    {number}. [{kindWord p}]"] ++ (Text.linesOf p.value).map ("       " ++ ·) ++ invalidLines t hints p

def fixLines (t : Terminal) (f : Fix) : List String :=
  ["", fieldLine t "Fix" f.recommendation] ++
    (f.before.map fun text => "    " ++ t.paint .red "before:" ++ " " ++ text).toList ++
    (f.after.map fun text => "    " ++ t.paint .green "after:" ++ " " ++ text).toList ++
    f.references.map fun r => "    " ++ t.paint .dimmed r

def ruleText (t : Terminal) (config : Config) (r : Rule) : String :=
  let hints := config.analysis.optimizerHints
  linesText (["", t.paint .bold ("Rule " ++ r.id), "", fieldLine t "Name" r.name] ++
    (if r.description = "" then [] else [fieldLine t "Description" r.description]) ++
    [fieldLine t "Category" r.category, fieldLine t "Severity" r.severity.name,
      fieldLine t "Languages" (languagesText r.languages)] ++
    ((r.metadata.bind (·.cwe)).map (fieldLine t "CWE")).toList ++
    ((r.metadata.bind (·.owasp)).map (fieldLine t "OWASP")).toList ++
    ["", "  " ++ t.paint .cyan "Patterns" ++ ":"] ++
    (r.patterns.zipIdx 1).flatMap (fun (p, number) => patternLines t hints p number) ++
    (r.fix.map (fixLines t)).getD [] ++
    ["", fieldLine t "Status" (statusText t (r.enabled && !config.isDisabled r.id)), ""])

def queryText (t : Terminal) (q : Query) : String :=
  linesText [t.paint .boldGreen "valid query", q.toJson.pretty]

/-- The lines about a target that is neither a rule nor a query. -/
def unknownTargetLines (t : Terminal) (rules : RuleSet) (target : String) : List String :=
  [t.paint .boldRed "error:" ++ s!" '{target}' is neither a known rule nor an EQL query", "", "Available rules:"] ++
    rules.rules.map fun r => s!"  {r.id} ({r.name})"

end SourceAudit.Cli
