import SourceAudit.Binary64.Basic
import SourceAudit.Location
import SourceAudit.SortedMap
import SourceAudit.Text.Blank
import SourceAudit.Text.Lines

/-!
# Syntax trees

A `SyntaxTree` holds nodes in the order in which they were added; the position of a node in this order is its number.
Nodes refer to each other by number: up to a parent, down to children, and across to arguments and properties.

`SyntaxTree.add` : adds a node below a parent, or as a root.
`SyntaxTree.addArgument`, `SyntaxTree.setProperty` : link two nodes.
`SyntaxTree.ancestors` : the nodes above a node, nearest first.
-/

namespace SourceAudit

inductive LiteralValue where
  | string (value : String)
  | number (value : Binary64)
  | bool (value : Bool)
  deriving Repr

/-- What is known of a node before it has a place in a tree. -/
structure NodeSpec where
  kind : String
  name : Option String := none
  start : Location
  stop : Option Location := none
  text : String
  scope : Option String := none
  value : Option LiteralValue := none
  operator : Option String := none
  deriving Repr

structure SyntaxNode extends NodeSpec where
  id : Nat
  parent : Option Nat
  children : List Nat := []
  arguments : List Nat := []
  properties : SortedMap Nat := {}
  deriving Repr

namespace SyntaxNode

/-- The first line of a text, without blanks around it. -/
def firstLine (text : String) : String :=
  match Text.lines text.toList with
  | [] => ""
  | line :: _ => String.ofList (Text.trim line)

/-- The name of a node, or else the first line of its text, with its kind and place. -/
def describe (n : SyntaxNode) : String :=
  s!"{n.kind} `{n.name.getD (firstLine n.text)}` at {n.start.line}:{n.start.column}"

end SyntaxNode

/-- Nodes in the order in which they were added, and the numbers of those without a parent. -/
structure SyntaxTree where
  nodes : Array SyntaxNode := #[]
  roots : List Nat := []

namespace SyntaxTree

def empty : SyntaxTree := {}

instance : Inhabited SyntaxTree := ⟨empty⟩

def get? (t : SyntaxTree) (id : Nat) : Option SyntaxNode := t.nodes[id]?

def size (t : SyntaxTree) : Nat := t.nodes.size

/-- Adds a node below a parent, or as a root. -/
def add (t : SyntaxTree) (spec : NodeSpec) (parent : Option Nat) : SyntaxTree :=
  let id := t.size
  let node : SyntaxNode := { spec with id, parent }
  match parent with
  | some p => { t with nodes := (t.nodes.modify p fun n => { n with children := n.children ++ [id] }).push node }
  | none => { nodes := t.nodes.push node, roots := t.roots ++ [id] }

def addArgument (t : SyntaxTree) (call argument : Nat) : SyntaxTree :=
  { t with nodes := t.nodes.modify call fun n => { n with arguments := n.arguments ++ [argument] } }

def setProperty (t : SyntaxTree) (id : Nat) (key : String) (target : Nat) : SyntaxTree :=
  { t with nodes := t.nodes.modify id fun n => { n with properties := n.properties.insert key target } }

def parent? (t : SyntaxTree) (id : Nat) : Option Nat := (t.get? id).bind (·.parent)

def children (t : SyntaxTree) (id : Nat) : List Nat := ((t.get? id).map (·.children)).getD []

/-- Follows parents upwards for at most `fuel` steps. -/
def ancestorsWithin (t : SyntaxTree) : (fuel : Nat) → Nat → List Nat
  | 0, _ => []
  | fuel + 1, id =>
    match t.parent? id with
    | some p => p :: t.ancestorsWithin fuel p
    | none => []

/-- The numbers of the nodes above a node, nearest first. A parent is added before its children, so there are fewer of
them than nodes. -/
def ancestors (t : SyntaxTree) (id : Nat) : List Nat := t.ancestorsWithin t.size id

end SyntaxTree

end SourceAudit
