import SourceAudit.Outline.Candidate

/-!
# Building syntax trees

`buildTree` reads a source text line by line and makes nodes of the candidates of each line. A node lies below the
last node of its line whose span holds its own, or else below the innermost function that is open. A function stays
open for the lines after it that are indented more than it is, and for a closing bracket after them.
-/

namespace SourceAudit.Outline

/-- A function whose block has not ended. -/
structure OpenFunction where
  id : Nat
  name : String
  endLine : Nat
  deriving Repr

/-! ## Blocks -/

/-- The width of the blanks at the start of a line; a tab counts as four. -/
def indentation (line : List Char) : Nat :=
  (line.takeWhile Text.isBlank).foldl (fun width c => width + if c == '\t' then 4 else 1) 0

/-- How many of the lines after a line belong to its block. `passed` lines have been looked at, of which `last`
belong. -/
def blockLengthFrom (indent passed last : Nat) : List (List Char) → Nat
  | [] => last
  | line :: lines =>
    match Text.trimStart line with
    | [] => blockLengthFrom indent (passed + 1) last lines
    | c :: _ =>
      if indent < indentation line then blockLengthFrom indent (passed + 1) (passed + 1) lines
      else if indentation line = indent && closesBracket c then passed + 1
      else last

def blockLines (line : List Char) (rest : List (List Char)) : List (List Char) :=
  rest.take (blockLengthFrom (indentation line) 0 0 rest)

/-! ## Nodes of a line -/

def columnOf (line : List Char) (offset : Nat) : Except BuildError Nat :=
  match Text.columnAt? line offset with
  | some column => .ok column
  | none => .error (.badSpan ⟨0, offset⟩)

/-- The text of a candidate and the place where it ends. A function ends with the last line of its block. -/
def extent (line : List Char) (rest : List (List Char)) (number : Nat) (c : Candidate) :
    Except BuildError (String × Location) := do
  match c.kind with
  | .functionDeclaration =>
    let head ← cut line ⟨c.span.start, Text.byteLength line⟩
    let block := blockLines line rest
    let text := Text.joinLines ((head :: block).map String.ofList)
    match block.getLast? with
    | some last => return (text, ⟨number + block.length, last.length + 1⟩)
    | none => return (text, ⟨number, ← columnOf line c.span.stop⟩)
  | _ => return (← textAt line c.span, ⟨number, ← columnOf line c.span.stop⟩)

def nodeSpec (line : List Char) (rest : List (List Char)) (number : Nat) (scope : Option String) (c : Candidate) :
    Except BuildError NodeSpec := do
  let column ← columnOf line c.span.start
  let (text, stop) ← extent line rest number c
  return {
    kind := c.kind.name, name := c.name, start := ⟨number, column⟩, stop := some stop, text, scope, value := c.value,
    operator := if c.kind = .assignment then some "=" else none }

/-- A candidate that has become a node. -/
structure Placed where
  candidate : Candidate
  id : Nat

/-- Whether a span lies inside another. -/
def Span.holds (outer inner : Span) : Bool := outer.start ≤ inner.start && inner.stop ≤ outer.stop

/-- Adds the node of a candidate; `placed` are the nodes of the line so far, newest first. -/
def place (line : List Char) (rest : List (List Char)) (number : Nat) (enclosing : Option OpenFunction)
    (state : SyntaxTree × List Placed) (c : Candidate) : Except BuildError (SyntaxTree × List Placed) := do
  let (tree, placed) := state
  let spec ← nodeSpec line rest number (enclosing.map (·.name)) c
  let parent := ((placed.find? fun p => p.candidate.span.holds c.span).map (·.id)).or (enclosing.map (·.id))
  return (tree.add spec parent, ⟨c, tree.size⟩ :: placed)

/-- The first node of a line with a given span. -/
def nodeAt? (placed : List Placed) (span : Span) : Option Nat :=
  (placed.find? fun p => p.candidate.span == span).map (·.id)

/-- Links the nodes of a line: calls to their arguments, assignments to their values. -/
def link (placed : List Placed) (tree : SyntaxTree) : SyntaxTree :=
  placed.foldl (fun tree p =>
    let targets := p.candidate.operands.filterMap (nodeAt? placed)
    match p.candidate.kind with
    | .call => targets.foldl (fun tree target => tree.addArgument p.id target) tree
    | .assignment =>
      match targets with
      | target :: _ => tree.setProperty p.id "value" target
      | [] => tree
    | _ => tree) tree

def openedBy (tree : SyntaxTree) (placed : List Placed) : Option OpenFunction :=
  (placed.find? fun p => p.candidate.kind = .functionDeclaration).map fun p =>
    let stop := ((tree.get? p.id).bind (·.stop)).map (·.line)
    { id := p.id, name := p.candidate.name.getD "", endLine := stop.getD 0 }

/-- Adds the nodes of a line, and gives the function that it opens. -/
def addLine (tree : SyntaxTree) (line : List Char) (masked : MaskedLine) (rest : List (List Char)) (number : Nat)
    (enclosing : Option OpenFunction) : Except BuildError (SyntaxTree × Option OpenFunction) := do
  let ordered := (← candidates line masked).mergeSort Candidate.before
  let (tree, placed) ← ordered.foldlM (place line rest number enclosing) (tree, [])
  return (link placed.reverse tree, openedBy tree placed)

/-! ## Whole texts -/

/-- Adds the nodes of the lines from `number` on; `functions` are the open functions, innermost first. -/
def buildFrom (hash : Bool) (tree : SyntaxTree) (functions : List OpenFunction) (number : Nat) :
    List (List Char) → Except BuildError SyntaxTree
  | [] => .ok tree
  | line :: rest => do
    let functions := functions.dropWhile (·.endLine < number)
    let masked := maskLine hash line
    if Text.allBlank masked.mask then buildFrom hash tree functions (number + 1) rest
    else
      let (tree, opened) ← addLine tree line masked rest number functions.head?
      buildFrom hash tree (opened.toList ++ functions) (number + 1) rest

/-- Whether `#` starts a comment in a language. -/
def hashComments (language : Option String) : Bool :=
  !(language.any fun l => ["javascript", "typescript", "go", "java", "rust"].contains l)

/-- The syntax tree of a source text; `hash` says whether `#` starts a comment. -/
def buildTree (source : String) (hash : Bool := true) : Except BuildError SyntaxTree :=
  buildFrom hash .empty [] 1 (Text.lines source.toList)

end SourceAudit.Outline
