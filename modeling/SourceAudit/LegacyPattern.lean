import SourceAudit.Outline.Shape
import SourceAudit.Regex.Parser
import SourceAudit.SyntaxTree
import SourceAudit.Text.Search

/-!
# Older forms of patterns

Before there were queries, a rule could select nodes by kind and name, as in `Kind` or `Kind[name=value]`, or follow a
variable through the lines of a file, as in `flow(source -> sink)`: a variable assigned from something that matches
`source` is reported on every later line that matches `sink` and mentions the variable.

`LegacyPattern.parse` reads such a pattern and `LegacyPattern.run` applies it.
-/

namespace SourceAudit

open Regex Outline

/-- A regular expression with its text. -/
structure TextPattern where
  text : String
  regex : Regex

/-- A pattern in an older form. -/
inductive LegacyPattern where
  | selector (kind : String) (name : Option String)
  | flow (source sink : TextPattern)

namespace LegacyPattern

/-- Why a text is not such a pattern. -/
inductive ParseError where
  | invalidRegex (role : String) (error : Regex.Error)
  | missingArrow
  | unrecognized

namespace ParseError

def message : ParseError → String
  | invalidRegex role error => s!"invalid {role} regex in flow pattern: {error.message}"
  | missingArrow => "flow pattern needs `source -> sink`"
  | unrecognized => "pattern is neither an EQL query nor a legacy selector or flow"

end ParseError

/-! ## Shapes -/

/-- A value between two marks that it does not hold. -/
def between (i : Nat) (mark : Char) : Regex :=
  seqs [set (.single mark), group i (star (set (.compl (.single mark)))), set (.single mark)]

/-- A selector; group 1 is the kind, and one of the groups 2, 3 and 4 the name. -/
def selectorShape : Regex :=
  seqs [look .startText, group 1 name, blanks,
    opt (seqs [word "[", blanks, word "name", blanks, word "=", blanks,
      alts [between 2 '\x22', between 3 '\x27', group 4 (star (set (.compl (.union (.single ']') .blank))))],
      blanks, word "]"]),
    look .endText]

/-- A flow; group 1 is what stands in the parentheses. -/
def flowShape : Regex :=
  seqs [look .startText, word "flow", blanks, word "(", group 1 (star (set (.compl (.single '\n')))), word ")",
    look .endText]

/-- An assignment to a plain name; group 1 is the variable and group 2 the value. -/
def variableShape : Regex :=
  seqs [look .startText, blanks, leading (oneOf ["const", "let", "var", "final", "auto"]), group 1 name, blanks,
    opt (seqs [word ":", blanks, rep (set (.compl (.single '='))) 1 none false]), blanks, word "=", blanks,
    group 2 (seq (set (.compl (.single '='))) (star (set (.compl (.single '\n'))))), look .endText]

def nameBreak : CharSet := .compl (.union .word (.single '$'))

/-- A variable that is not part of a longer name, with the characters next to it. -/
def mentionShape (target : List Char) : Regex :=
  seqs [alt (look .startText) (set nameBreak), literal target, alt (set nameBreak) (look .endText)]

/-- `mentionShape` in the form in which it is turned into an automaton. -/
def mentionOutline (target : List Char) : Regex.Shape :=
  let edge := Regex.Shape.set nameBreak.ranges
  .seq [.alt [.look .startText, edge], .literal (target.flatMap fun c => utf8Bytes c.toNat),
    .alt [edge, .look .endText]]

/-- Whether mentions of a variable can be looked for. A name that is too long makes too large an automaton. -/
def isMentionable (target : List Char) : Bool := (mentionOutline target).fits

def groupText? (cs : List Char) (m : Regex.Match) (i : Nat) : Option (List Char) :=
  (m.group? i).bind fun (start, stop) => Text.slice? cs start stop

/-! ## Reading -/

def readSide (role : String) (text : List Char) : Except ParseError TextPattern :=
  let text := String.ofList (Text.trim text)
  match Regex.parse text with
  | .ok regex => .ok ⟨text, regex⟩
  | .error e => .error (.invalidRegex role e)

def parse (pattern : String) : Except ParseError LegacyPattern :=
  let cs := Text.trim pattern.toList
  match flowShape.find? cs with
  | some m =>
    match Text.cutAt? ['-', '>'] ((groupText? cs m 1).getD []) with
    | none => .error .missingArrow
    | some (source, sink) => do return flow (← readSide "source" source) (← readSide "sink" sink)
  | none =>
    match selectorShape.find? cs with
    | none => .error .unrecognized
    | some m =>
      match groupText? cs m 1 with
      | none => .error .unrecognized
      | some kind =>
        let name := ((groupText? cs m 2).or (groupText? cs m 3)).or (groupText? cs m 4)
        .ok (selector (String.ofList kind) (name.map String.ofList))

/-! ## Running -/

/-- A place that a pattern selects. -/
structure Hit where
  location : Location
  target : Option String
  reason : String

def runSelector (kind : String) (name : Option String) (tree : SyntaxTree) : List Hit :=
  (tree.nodes.toList.filter fun node => node.kind = kind && (name.isNone || node.name = name)).map fun node =>
    { location := node.start
      target := none
      reason := match name with
        | some name => s!"{kind} named `{name}`"
        | none => s!"{kind} node" }

def assigned? (line : List Char) : Option (List Char × List Char) :=
  (variableShape.find? line).bind fun m =>
    match groupText? line m 1, groupText? line m 2 with
    | some target, some value => some (target, value)
    | _, _ => none

def mentionColumn? (target line : List Char) : Option Nat :=
  ((mentionShape target).find? line).bind fun m =>
    let lead := (Text.takeBytes? line m.start).getD []
    let rest := line.drop lead.length
    (Text.find? target rest).map fun i => lead.length + ((Text.takeBytes? rest i).getD []).length + 1

/-- The later lines that an assignment on a line reaches; `later` are the lines after it. -/
def reached (source sink : TextPattern) (number : Nat) (target : List Char) (later : List (List Char)) : List Hit :=
  (later.zipIdx (number + 1)).filterMap fun (line, n) =>
    if sink.regex.isMatch line then
      (mentionColumn? target line).map fun column =>
        let v := String.ofList target
        { location := ⟨n, column⟩
          target := some v
          reason := s!"`{v}` assigned from /{source.text}/ on line {number} reaches /{sink.text}/" }
    else none

/-- Follows every assignment on the lines from `number` on, if its variable can be looked for. -/
def flowFrom (source sink : TextPattern) (number : Nat) : List (List Char) → List Hit
  | [] => []
  | line :: later =>
    (match assigned? line with
      | some (target, value) =>
        if source.regex.isMatch value && isMentionable target then reached source sink number target later else []
      | none => []) ++ flowFrom source sink (number + 1) later

/-- The places that a pattern selects in a file. -/
def run (p : LegacyPattern) (tree : SyntaxTree) (content : String) : List Hit :=
  match p with
  | selector kind name => runSelector kind name tree
  | flow source sink => flowFrom source sink 1 (Text.lines content.toList)

end LegacyPattern

end SourceAudit
