import SourceAudit.Binary64.Reader
import SourceAudit.Regex.Parser
import SourceAudit.Text.Ascii
import SourceAudit.Text.Blank
import SourceAudit.Text.Bytes
import SourceAudit.Text.Numeric

/-!
# Log directives

A directive says how much is logged: a level, a target, or a target and a level with `=` between them. After the
target it may name in brackets the span that a record has to be in and, in braces, the fields that it has to have.

Blanks around a directive do not count where its parts begin and end. But the parts are then cut, at these places,
from the text with its blanks, so that a blank becomes part of a target or of a level.

`Directive.parse` : the directive with a text.
-/

namespace SourceAudit.Cli

/-- What a directive asks of a field. -/
structure FieldTest where
  name : String
  /-- Whether it also asks for a value. -/
  hasValue : Bool
  deriving DecidableEq, Repr

/-- How much is logged, and of which part of the program. -/
structure Directive where
  target : Option String := none
  span : Option String := none
  fields : List FieldTest := []
  /-- From 0 for nothing to 5 for everything. -/
  level : Nat := 5
  deriving DecidableEq, Repr

namespace Directive

/-- Why a text is no directive. -/
inductive Error where
  | malformed
  | badLevel
  | badValue
  deriving DecidableEq, Repr

def Error.message : Error → String
  | malformed => "invalid filter directive"
  | badLevel =>
    "error parsing level filter: expected one of \"off\", \"error\", \"warn\", \"info\", \"debug\", \"trace\", " ++
      "or a number 0-5"
  | badValue => "invalid field filter: error building NFA"

/-! ## Levels -/

def levels : List (List Char × Nat) :=
  [("off", 0), ("error", 1), ("warn", 2), ("info", 3), ("debug", 4), ("trace", 5)].map fun (name, n) => (name.toList, n)

def numberedLevel? (digits : List Char) : Option Nat :=
  if digits.isEmpty || !digits.all Char.isDigit then none
  else
    let n := digits.foldl (fun n c => 10 * n + (c.toNat - '0'.toNat)) 0
    if n ≤ 5 then some n else none

/-- The level with a number or with a name in any case. -/
def level? (text : List Char) : Option Nat :=
  let digits := match text with
    | '+' :: cs => cs
    | cs => cs
  (numberedLevel? digits).orElse fun _ => levels.lookup (Text.asciiLower text)

/-- The level after `=`; if nothing follows, everything is logged. -/
def readLevel (text : List Char) : Except Error Nat :=
  if text.isEmpty then .ok 5
  else match level? text with
    | some n => .ok n
    | none => .error .badLevel

/-! ## Cuts -/

/-- The characters from byte `start` up to byte `stop`, which both have to be between characters. -/
def cut (text : List Char) (start stop : Nat) : Except Error (List Char) :=
  match Text.slice? text start stop with
  | some cs => .ok cs
  | none => .error .malformed

/-! ## Reading -/

/-- What a directive asks of a field: its name, and perhaps a value, which is a number or a pattern. -/
def readField (text : List Char) : Except Error FieldTest :=
  let name := text.takeWhile (· ≠ '=')
  match text.drop name.length with
  | [] => if name.isEmpty then .error .malformed else .ok ⟨String.ofList name, false⟩
  | _ :: rest =>
    let value := rest.takeWhile (· ≠ '=')
    let isPattern := match Regex.parse (String.ofList value) with
      | .ok _ | .error .tooLarge => true
      | .error _ => false
    if (Binary64.parse? value).isSome || isPattern then .ok ⟨String.ofList name, true⟩ else .error .badValue

/-- Which part of a directive is read, with the byte where it begins. -/
inductive Place where
  | start
  | target
  | span (start : Nat)
  | field (start : Nat)
  | fields
  | afterSpan
  | level (start : Nat)

def beginsTarget (c : Char) : Bool := c = '-' || c = ':' || c = '_' || Text.isAlphanumeric c

/-- Reads the character at byte `i`. -/
def step (text : List Char) (i : Nat) (c : Char) (d : Directive) (p : Place) : Except Error (Directive × Place) := do
  match p with
  | .start =>
    if c = '[' then return (d, .span (i + 1))
    else if beginsTarget c then return (d, .target)
    else .error .malformed
  | .target =>
    if c = '=' || c = '[' then
      let target := String.ofList (← cut text 0 i)
      return ({ d with target := some target }, if c = '=' then .level (i + 1) else .span (i + 1))
    else return (d, .target)
  | .span start =>
    if c = ']' then return ({ d with span := some (String.ofList (← cut text start i)) }, .afterSpan)
    else if c = '\x7b' then
      let name ← cut text start i
      return ({ d with span := if name.isEmpty then none else some (String.ofList name) }, .field (i + 1))
    else return (d, .span start)
  | .field start =>
    if c = '\x7d' then return ({ d with fields := d.fields ++ [← readField (← cut text start i)] }, .fields)
    else return (d, .field start)
  | .fields => if c = ']' then return (d, .afterSpan) else .error .malformed
  | .afterSpan => if c = '=' then return (d, .level (i + 1)) else .error .malformed
  | .level start => return (d, .level start)

/-- Reads characters, the first of which is at byte `i`. -/
def steps (text : List Char) (i : Nat) (d : Directive) (p : Place) : List Char → Except Error (Directive × Place)
  | [] => .ok (d, p)
  | c :: cs =>
    match step text i c d p with
    | .ok (d, p) => steps text (i + c.utf8Size) d p cs
    | .error e => .error e

/-- The directive with a text. A text that is no level is a target of which everything is logged. -/
def parse (text : String) : Except Error Directive := do
  let cs := text.toList
  let (d, p) ← steps cs 0 {} .start (Text.trim cs)
  match p with
  | .target =>
    match level? cs with
    | some n => return { d with level := n }
    | none => return { d with target := some text }
  | .level start => return { d with level := ← readLevel (← cut cs start (Text.byteLength cs)) }
  | .afterSpan => return d
  | _ => .error .malformed

end Directive

end SourceAudit.Cli
