import SourceAudit.Baseline
import SourceAudit.Config.Basic
import SourceAudit.Language
import SourceAudit.Outline.Build
import SourceAudit.Rule.Set

/-!
# Scanning files

`Scanner.rulesFor` : the rules that are run on a file.
`Scanner.ruleReport` : what one of them finds.
`Scanner.scan` : what all of them find, in the order of the text; findings at one place keep the order of the rules.
-/

namespace SourceAudit

/-- Rules and how to run them. -/
structure Scanner where
  rules : RuleSet
  config : Config

namespace Scanner

def rulesFor (s : Scanner) (file : String) : List Rule :=
  (s.rules.forLanguage (languageOf? file)).filter fun r => !s.config.isDisabled r.id

/-- What a rule finds in a file: first line by line, then in the syntax tree. -/
def ruleReport (s : Scanner) (file content : String) (tree : SyntaxTree) (rule : Rule) : Report :=
  let options := s.config.analysis
  let byLine := Baseline.analyze options.defaultConfidence options.snippetContext file content rule
  if rule.hasQueryPatterns then byLine ++ analyze options file content tree rule else byLine

def treeFor (rules : List Rule) (file content : String) : Except Outline.BuildError SyntaxTree :=
  if rules.any (·.hasQueryPatterns) then Outline.buildTree content (Outline.hashComments (languageOf? file))
  else .ok .empty

/-- Gives findings the severities of the configuration, leaves out those with little confidence, and sorts the rest. -/
def settle (config : Config) (findings : List Finding) : List Finding :=
  let reported := findings.map fun f => { f with severity := config.severityOf f.rule f.severity }
  let kept := reported.filter fun f => config.rules.minConfidence.all fun least => least.le f.confidence
  kept.mergeSort fun a b => !b.location.precedes a.location

def scan (s : Scanner) (file content : String) : Except Outline.BuildError Report := do
  let rules := s.rulesFor file
  let tree ← treeFor rules file content
  let report := Report.concat (rules.map (s.ruleReport file content tree))
  return { report with findings := settle s.config report.findings }

end Scanner

end SourceAudit
