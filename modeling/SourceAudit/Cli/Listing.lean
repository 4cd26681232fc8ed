import SourceAudit.Cli.Report
import SourceAudit.Config.Basic
import SourceAudit.Rule.Set

/-!
# Listings of rules

`listing` : the rules for a language, as a configuration has them.
`listingText`, `listingJson` : a listing for a reader, and as a JSON document.
-/

namespace SourceAudit.Cli

structure ListedRule where
  id : String
  name : String
  severity : Severity
  category : String
  languages : List String
  enabled : Bool
  queryPatterns : Nat
  textPatterns : Nat

namespace ListedRule

def ofRule (config : Config) (r : Rule) : ListedRule :=
  let queries := (r.patterns.filter (·.kind = .query)).length
  { id := r.id
    name := r.name
    severity := config.severityOf r.id r.severity
    category := r.category
    languages := r.languages
    enabled := r.enabled && !config.isDisabled r.id
    queryPatterns := queries
    textPatterns := r.patterns.length - queries }

def toJson (r : ListedRule) : Json :=
  .object [("id", .string r.id), ("name", .string r.name), ("severity", .string r.severity.name),
    ("category", .string r.category), ("languages", .strings r.languages), ("enabled", .bool r.enabled),
    ("query_patterns", .nat r.queryPatterns), ("text_patterns", .nat r.textPatterns)]

end ListedRule

def languagesText (languages : List String) : String :=
  if languages.isEmpty then "all" else ", ".intercalate languages

def listing (rules : RuleSet) (config : Config) (language : Option String) : List ListedRule :=
  (rules.rules.filter fun r => language.isNone || r.appliesTo language).map (ListedRule.ofRule config)

def statusText (t : Terminal) (enabled : Bool) (width : Nat := 0) : String :=
  if enabled then t.paint .green "enabled" width else t.paint .red "disabled" width

def listingText (t : Terminal) (rules : List ListedRule) : String :=
  linesText (rules.map (fun r =>
    " ".intercalate [t.paint .bold r.id 28, padRight 9 r.severity.name, padRight 14 r.category,
      statusText t r.enabled 8, t.paint .dimmed (languagesText r.languages)]) ++ ["", s!"{rules.length} rule(s)"])

def listingJson (rules : List ListedRule) : String := (Json.array (rules.map ListedRule.toJson)).pretty ++ "\n"

end SourceAudit.Cli
