import SourceAudit.Binary64.Reader
import SourceAudit.Outline.Arguments
import SourceAudit.Outline.Shape
import SourceAudit.SyntaxTree

/-!
# Candidates

`candidates` finds the parts of one line that become nodes: at most one function declaration, import or assignment,
and any number of calls with their identifier arguments, members and strings. `Candidate.before` is the order in which
they become nodes: by start, longer ones first.
-/

namespace SourceAudit.Outline

inductive NodeKind where
  | functionDeclaration
  | importStatement
  | assignment
  | call
  | member
  | stringLiteral
  | identifier
  deriving DecidableEq, Repr

namespace NodeKind

def name : NodeKind → String
  | functionDeclaration => "FunctionDeclaration"
  | importStatement => "Import"
  | assignment => "Assignment"
  | call => "CallExpression"
  | member => "MemberExpression"
  | stringLiteral => "StringLiteral"
  | identifier => "Identifier"

/-- The order of kinds with the same span. -/
def rank : NodeKind → Nat
  | functionDeclaration | importStatement | assignment => 0
  | call => 1
  | member => 2
  | stringLiteral => 3
  | identifier => 4

end NodeKind

/-- A part of a line that becomes a node. -/
structure Candidate where
  kind : NodeKind
  span : Span
  name : Option String := none
  value : Option LiteralValue := none
  /-- The spans of the arguments of a call, or of the value of an assignment. -/
  operands : List Span := []
  deriving Repr

namespace Candidate

/-- Whether a candidate does not come after another: by start, then longer ones first, then by kind. -/
def before (a b : Candidate) : Bool :=
  a.span.start < b.span.start ||
    (a.span.start == b.span.start &&
      (b.span.stop < a.span.stop || (a.span.stop == b.span.stop && a.kind.rank ≤ b.kind.rank)))

end Candidate

/-! ## Literals -/

/-- What stands between the quotes of a string. -/
def stringContents (literal : List Char) : List Char :=
  match literal.dropWhile Char.isAlpha with
  | [] => []
  | quote :: inner => if inner.getLast? == some quote then inner.dropLast else inner

/-- The value of a literal: a truth value, a number or a string. -/
def literalValue? (text : List Char) : Option LiteralValue :=
  let s := String.ofList text
  if s = "true" || s = "True" then some (.bool true)
  else if s = "false" || s = "False" then some (.bool false)
  else
    match Binary64.parse? text with
    | some x => some (.number x)
    | none =>
      let quoted := match text.dropWhile Char.isAlpha with
        | c :: _ => isQuote c
        | [] => false
      if quoted && 2 ≤ Text.byteLength text then some (.string (String.ofList (stringContents text))) else none

/-! ## Statements -/

/-- Words before a parenthesis that call nothing. -/
def notCallable : List String :=
  ["if", "elif", "else", "for", "while", "switch", "catch", "return", "function", "def", "with", "not", "and",
    "or", "in", "is", "typeof", "new", "await", "yield", "lambda", "assert", "del", "except", "match", "case"]

def notIdentifier : List String := ["True", "False", "None", "true", "false", "null", "undefined", "nil"]

def groupSpan? (m : Regex.Match) (i : Nat) : Option Span := (m.group? i).map fun (start, stop) => ⟨start, stop⟩

/-- The span of a mask without the blanks around it. -/
def codeSpan (mask : List Char) : Span :=
  ⟨Text.byteLength mask - Text.byteLength (Text.trimStart mask), Text.byteLength (Text.trimEnd mask)⟩

/-- Where a statement that ends at `stop` ends without blanks and semicolons. -/
def statementEnd (mask : List Char) (stop : Nat) : Except BuildError Nat := do
  let head ← cut mask ⟨0, stop⟩
  return Text.byteLength (Text.trimEnd (Text.dropEndWhile (· == ';') (Text.trimEnd head)))

def textAt (cs : List Char) (span : Span) : Except BuildError String := do return String.ofList (← cut cs span)

def nameAt? (cs : List Char) : Option Span → Except BuildError (Option String)
  | some span => do return some (← textAt cs span)
  | none => .ok none

def assignmentCandidate (line mask : List Char) (target value : Span) : Except BuildError Candidate := do
  let stop ← statementEnd mask value.stop
  let span : Span := ⟨value.start, stop⟩
  let text ← cut line span
  return { kind := .assignment, span := ⟨target.start, stop⟩, name := some (← textAt mask target),
           value := literalValue? (Text.trim text), operands := [span] }

/-- The statement of a line, if it is a function declaration, an import or an assignment. Imports are recognised on
the line itself, because their names stand in strings. -/
def statement? (line mask : List Char) : Except BuildError (Option Candidate) := do
  match functionShape.find? mask with
  | some m =>
    return some { kind := .functionDeclaration, span := codeSpan mask, name := ← nameAt? mask (groupSpan? m 1) }
  | none =>
    match importShape.find? line with
    | some m =>
      let name := ((groupSpan? m 1).or (groupSpan? m 2)).or (groupSpan? m 3)
      return some { kind := .importStatement, span := codeSpan mask, name := ← nameAt? line name }
    | none =>
      match assignmentShape.find? mask with
      | some m =>
        match groupSpan? m 1, groupSpan? m 2 with
        | some target, some value => return some (← assignmentCandidate line mask target value)
        | _, _ => return none
      | none => return none

/-- Where the name of a declared function starts. -/
def declaredAt? (mask : List Char) : Option Nat :=
  ((functionShape.find? mask).bind fun m => groupSpan? m 1).map (·.start)

/-! ## Expressions -/

def identifierCandidate? (mask : List Char) (span : Span) : Except BuildError (Option Candidate) := do
  let text ← cut mask span
  let name := String.ofList text
  if identifierShape.isMatch text && !notIdentifier.contains name then
    return some { kind := .identifier, span, name := some name }
  else return none

/-- The candidates of a call that starts with a match: its identifier arguments, then the call. -/
def callCandidates (mask : List Char) (declared : Option Nat)
    (m : Regex.Match) : Except BuildError (List Candidate) := do
  match groupSpan? m 1 with
  | none => return []
  | some callee =>
    let name ← textAt mask callee
    if notCallable.contains name || declared == some callee.start then return []
    let opening := m.stop - 1
    let close ← closingParen mask opening
    let codeEnd := (codeSpan mask).stop
    let stop := match close with
      | some c => c + 1
      | none => codeEnd
    let operands := splitArguments mask ⟨opening + 1, close.getD codeEnd⟩
    let identifiers ← operands.mapM (identifierCandidate? mask)
    return identifiers.filterMap id ++
      [{ kind := .call, span := ⟨callee.start, stop⟩, name := some name, operands }]

def memberCandidate (mask : List Char) (m : Regex.Match) : Except BuildError Candidate := do
  let span : Span := ⟨m.start, m.stop⟩
  return { kind := .member, span, name := some (← textAt mask span) }

def stringCandidate (line : List Char) (span : Span) : Except BuildError Candidate := do
  return { kind := .stringLiteral, span, value := some (.string (String.ofList (stringContents (← cut line span)))) }

def candidates (line : List Char) (masked : MaskedLine) : Except BuildError (List Candidate) := do
  let mask := masked.mask
  let statement ← statement? line mask
  let calls ← (callShape.findAll mask).mapM (callCandidates mask (declaredAt? mask))
  let members ← (memberShape.findAll mask).mapM (memberCandidate mask)
  let strings ← masked.strings.mapM (stringCandidate line)
  return statement.toList ++ calls.flatten ++ members ++ strings

end SourceAudit.Outline
