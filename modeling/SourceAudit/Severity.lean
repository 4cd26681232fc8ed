import SourceAudit.Text.Ascii

/-!
# Severities

`Severity.parse` reads the name of a severity in any case, and `Severity.rank` orders severities by impact.
-/

namespace SourceAudit

/-- How bad a finding is. -/
inductive Severity where
  | info
  | low
  | medium
  | high
  | critical
  deriving DecidableEq, Repr

namespace Severity

def name : Severity → String
  | info => "info"
  | low => "low"
  | medium => "medium"
  | high => "high"
  | critical => "critical"

/-- The place in the order of impact. -/
def rank : Severity → Nat
  | info => 0
  | low => 1
  | medium => 2
  | high => 3
  | critical => 4

def atLeast (a b : Severity) : Bool := b.rank ≤ a.rank

def all : List Severity := [critical, high, medium, low, info]

def ofName? (name : String) : Option Severity := all.find? (·.name = name)

/-- A name, in lower case, that is not the name of a severity. -/
structure Unknown where
  name : String

def Unknown.message (u : Unknown) : String := s!"unknown severity '{u.name}'"

/-- Reads a name in any case. -/
def parse (text : String) : Except Unknown Severity :=
  let name := Text.asciiLowered text
  match ofName? name with
  | some s => .ok s
  | none => .error ⟨name⟩

end Severity

end SourceAudit
