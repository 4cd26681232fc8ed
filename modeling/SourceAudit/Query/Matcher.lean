import SourceAudit.Query.Validation
import SourceAudit.SyntaxTree
import SourceAudit.Text.Lowercase
import SourceAudit.Text.Search

/-!
# Matching nodes

`NodeMatcher.firstMatch?` : the first pattern of a matcher that fits a node.
`matchPattern` : the nodes of a tree that a matcher selects, with a reason and a confidence.

Identifiers are matched on their names, other nodes on their text.
-/

namespace SourceAudit.Query

/-- A pattern made ready for use. -/
inductive ReadyPattern where
  | literal (spec : PatternSpec) (lowered : List Char)
  | regex (spec : PatternSpec) (regex : Regex)
  /-- A regular expression that cannot be read never matches. -/
  | never

namespace ReadyPattern

def ofSpec (spec : PatternSpec) : ReadyPattern :=
  match spec.kind with
  | .literal => literal spec (Text.lowercase spec.value.toList)
  | .regex =>
    match spec.compile with
    | .ok r => regex spec r
    | .error _ => never

/-- Whether a pattern occurs in a text. Where case does not count, both are compared in lower case. -/
def occursIn (text : List Char) : ReadyPattern → Bool
  | literal spec lowered =>
    if spec.caseSensitive then Text.contains spec.value.toList text
    else Text.contains lowered (Text.lowercase text)
  | regex _ r => r.isMatch text
  | never => false

def spec? : ReadyPattern → Option PatternSpec
  | literal spec _ => some spec
  | regex spec _ => some spec
  | never => none

end ReadyPattern

/-- A matcher made ready for use. -/
structure ReadyMatcher where
  kinds : StringSet
  patterns : List ReadyPattern

def NodeMatcher.ready (m : NodeMatcher) : ReadyMatcher := ⟨m.kinds, m.patterns.map ReadyPattern.ofSpec⟩

def matchText (node : SyntaxNode) : String :=
  match node.name with
  | some name => if node.kind = "Identifier" then name else node.text
  | none => node.text

namespace ReadyMatcher

def firstMatch? (m : ReadyMatcher) (node : SyntaxNode) : Option PatternSpec :=
  if m.kinds.members.contains node.kind then
    let text := (matchText node).toList
    (m.patterns.find? fun p => p.occursIn text).bind ReadyPattern.spec?
  else none

def selects (m : ReadyMatcher) (node : SyntaxNode) : Bool := (m.firstMatch? node).isSome

end ReadyMatcher

/-- A selected node. -/
structure PatternMatch where
  node : Nat
  location : Location
  confidence : Binary64
  reason : String

/-- Why a node was selected. -/
def matchReason (reason : Option String) (node : SyntaxNode) (spec : PatternSpec) : String :=
  match reason with
  | some reason => s!"{reason} ({node.kind} matched {spec.describe})"
  | none => s!"{node.kind} matched {spec.describe}"

/-- The confidence of a match, unless another one is given. -/
def defaultConfidence : Binary64 := Binary64.ofDecimal false 8 (-1)

def matchPattern (confidence : Binary64) (matcher : NodeMatcher) (reason : Option String) (tree : SyntaxTree) :
    List PatternMatch :=
  let ready := matcher.ready
  tree.nodes.toList.filterMap fun node =>
    (ready.firstMatch? node).map fun spec =>
      { node := node.id, location := node.start, confidence := confidence.clampUnit, reason :=
        matchReason reason node spec }

end SourceAudit.Query
