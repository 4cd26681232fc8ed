import SourceAudit.Binary64.Basic
import SourceAudit.Severity

/-!
# Rules

A `Rule` says what to look for: patterns that are compared with the lines of a file, or queries over its syntax tree.
-/

namespace SourceAudit

/-- How the text of a rule's pattern is understood. -/
inductive RulePatternKind where
  | regex
  | literal
  | query
  deriving DecidableEq, Repr

namespace RulePatternKind

def name : RulePatternKind → String
  | regex => "regex"
  | literal => "literal"
  | query => "query"

def ofName? (name : String) : Option RulePatternKind := [regex, literal, query].find? (·.name = name)

end RulePatternKind

structure RulePattern where
  kind : RulePatternKind
  value : String
  caseSensitive : Bool := true
  deriving DecidableEq, Repr

/-- How to mend what was found. -/
structure Fix where
  recommendation : String
  before : Option String := none
  after : Option String := none
  references : List String := []
  deriving DecidableEq, Repr

/-- What else is known of a rule. -/
structure RuleMetadata where
  confidence : Option Binary64 := none
  cwe : Option String := none
  owasp : Option String := none
  tags : List String := []
  deriving Repr

structure Rule where
  id : String
  name : String
  description : String := ""
  severity : Severity
  category : String := "security"
  patterns : List RulePattern
  /-- The languages the rule is for; none means all. -/
  languages : List String := []
  enabled : Bool := true
  fix : Option Fix := none
  metadata : Option RuleMetadata := none
  deriving Repr

namespace Rule

def appliesTo (r : Rule) (language : Option String) : Bool :=
  r.languages.isEmpty || r.languages.contains "*" ||
    language.any fun lang => r.languages.any fun l => Text.sameIgnoringAsciiCase l lang

/-- Whether a rule needs the syntax tree. -/
def hasQueryPatterns (r : Rule) : Bool := r.patterns.any (·.kind = .query)

def confidence (r : Rule) : Option Binary64 := r.metadata.bind (·.confidence)

end Rule

end SourceAudit
