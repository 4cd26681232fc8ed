import SourceAudit.Binary64.Printer
import SourceAudit.Regex.Parser
import SourceAudit.Rule.Basic
import SourceAudit.Text.Blank

/-!
# Valid rules

`Rule.check` refuses rules that cannot be run.
-/

namespace SourceAudit

/-- What can be wrong with a rule. -/
inductive RuleFault where
  | emptyId
  | noPatterns
  | confidence (value : Binary64)
  | emptyPattern
  | invalidRegex (value : String) (error : Regex.Error)

namespace RuleFault

def message : RuleFault → String
  | emptyId => "rule id is empty"
  | noPatterns => "rule has no patterns"
  | confidence value => s!"confidence {value.positional} is outside [0, 1]"
  | emptyPattern => "pattern is empty"
  | invalidRegex value error => s!"invalid regex '{value}': {error.message}"

end RuleFault

/-- A rule that cannot be run. -/
structure InvalidRule where
  id : String
  fault : RuleFault

def InvalidRule.message (e : InvalidRule) : String := s!"Invalid rule '{e.id}': {e.fault.message}"

def RulePattern.fault? (p : RulePattern) : Option RuleFault :=
  if Text.allBlank p.value.toList then some .emptyPattern
  else
    match p.kind with
    | .regex =>
      match Regex.parse p.value with
      | .ok _ => none
      | .error e => some (.invalidRegex p.value e)
    | _ => none

namespace Rule

/-- The first thing that is wrong with a rule. -/
def fault? (r : Rule) : Option RuleFault :=
  if Text.allBlank r.id.toList then some .emptyId
  else if r.patterns.isEmpty then some .noPatterns
  else
    match r.confidence.filter fun c => !c.inUnitRange with
    | some c => some (.confidence c)
    | none => r.patterns.findSome? RulePattern.fault?

/-- Refuses a rule that cannot be run. -/
def check (r : Rule) : Except InvalidRule Unit :=
  match r.fault? with
  | some fault => .error ⟨r.id, fault⟩
  | none => .ok ()

end Rule

end SourceAudit
