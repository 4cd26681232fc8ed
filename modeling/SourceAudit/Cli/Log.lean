import SourceAudit.Cli.Directive
import SourceAudit.Json.Printer

/-!
# Log records

All log records are warnings. A `Filter` decides which are shown: it is a list of directives, and of those that are
about a record the one with the longest target counts.

`Filter.parse` : the filter with a text, and the directives that mean nothing.
`Filter.shows` : whether a record is shown.
`Record.render` : the text of a record.
-/

namespace SourceAudit.Cli

/-- A warning, and the part of the program that it is from. -/
structure Record where
  target : String
  message : String

namespace Record

/-- The digits of a small number in base 16. -/
def hexText (n : Nat) : List Char := Nat.toDigits 16 n

/-- Shows a character that could start a control sequence by its code. -/
def escapeControl (c : Char) : List Char :=
  let n := c.toNat
  if n = 0x1b || n = 0x7f then ['\\', 'x'] ++ hexText n
  else if n = 0x07 || n = 0x08 || n = 0x0c then ['\\', 'x', '0'] ++ hexText n
  else if 0x80 ≤ n && n ≤ 0x9f then ['\\', 'u', '\x7b'] ++ hexText n ++ ['\x7d']
  else [c]

/-- The text of a record: a line, or a JSON value. -/
def render (json : Bool) (r : Record) : String :=
  if json then
    (Json.object [("level", .string "WARN"), ("fields", .object [("message", .string r.message)])]).compact
  else "WARN " ++ String.ofList (r.message.toList.flatMap escapeControl)

end Record

/-- Which records are shown. -/
structure Filter where
  directives : List Directive

namespace Filter

def warnLevel : Nat := 2

def parse (text : String) : Filter × List (String × Directive.Error) :=
  ((text.splitOn ",").filter (· ≠ "")).foldl (fun (f, ignored) part =>
    match Directive.parse part with
    | .ok d => (⟨f.directives ++ [d]⟩, ignored)
    | .error e => (f, ignored ++ [(part, e)])) (⟨[]⟩, [])

/-- Whether a directive is about a record. All records have one field, the message, and none of them is in a span. -/
def concerns (d : Directive) (r : Record) : Bool :=
  d.span.isNone && d.fields.all (fun f => f.name = "message" && !f.hasValue) &&
    d.target.all fun target => target.toList.isPrefixOf r.target.toList

/-- How much a directive says about where it counts: first the length of its target, then the number of its fields. -/
def specificity (d : Directive) : Nat × Nat := ((d.target.map fun t => t.length + 1).getD 0, d.fields.length)

/-- Whether a directive says less than another about where it counts. -/
def isWider (d other : Directive) : Bool :=
  let (a, m) := specificity d
  let (b, n) := specificity other
  a < b || (a = b && m < n)

/-- The directive that counts: of those about the record the one that says most, and of these the last. -/
def decisive? (f : Filter) (r : Record) : Option Directive :=
  (f.directives.filter fun d => concerns d r).foldl (fun best d => if best.any (isWider d) then best else some d) none

def shows (f : Filter) (r : Record) : Bool := (f.decisive? r).any fun d => warnLevel ≤ d.level

end Filter

end SourceAudit.Cli
