import SourceAudit.Glob.Depth
import SourceAudit.Regex.Footprint

/-!
# Globs as expressions

A glob that is neither one path nor the start, the end, the name or the extension of one is compared by an expression.
A glob that ends in an extension has an expression of its own; all others of a list are compared by one automaton.

`Glob.expression` : the expression of a glob. `Glob.areUsable` : whether globs can be compared: no expression is
nested too deep, and the automata keep to their limit.
-/

namespace SourceAudit.Glob

open SourceAudit.Regex (CodeRanges Shape)

def slashShape : Shape := .literal [slash.toNat]

def anyByteShape : Shape := .bytes [(0, 255)]

def anyBytesShape : Shape := .repeated anyByteShape 0 none true

/-- The bytes of a range of characters, as ranges (`inRange`). -/
def rangeBytes (range : Char × Char) : List (Nat × Nat) :=
  let lo := charBytes range.1
  let hi := charBytes range.2
  let middle := if range.1 ≠ range.2 then [((lo.getLastD 0).toNat, (hi.headD 0).toNat)] else []
  middle ++ (lo ++ hi).map fun b => (b.toNat, b.toNat)

def classBytes (negated : Bool) (ranges : List (Char × Char)) : CodeRanges :=
  let members := CodeRanges.ofRanges (ranges.flatMap rangeBytes)
  if negated then CodeRanges.diff [(0, 255)] members else members

mutual

/-- The parts of an expression that a token stands for. -/
def tokenShapes : GlobToken → List Shape
  | .literal c => [.literal ((charBytes c).map UInt8.toNat)]
  | .any => [anyByteShape]
  | .star => [anyBytesShape]
  | .anyPrefix => [.alternation [.repeated slashShape 0 (some 1) true, .concat [anyBytesShape, slashShape]]]
  | .anySuffix => [slashShape, anyBytesShape]
  | .anyMiddle => [.alternation [slashShape, .concat [slashShape, anyBytesShape, slashShape]]]
  | .byteClass negated ranges => [.bytes (classBytes negated ranges)]
  | .oneOf branches => if allSilent branches then [] else [.alternation (branchShapes branches)]

/-- The parts of an expression that tokens stand for. -/
def shapes : List GlobToken → List Shape
  | [] => []
  | t :: ts => tokenShapes t ++ shapes ts

/-- The expressions of branches; one that says nothing has none. -/
def branchShapes : List (List GlobToken) → List Shape
  | [] => []
  | b :: more => if isSilent b then branchShapes more else .concat (shapes b) :: branchShapes more

end

/-- The expression of a glob, which a whole path has to match. `**` alone is any bytes. -/
def expression (g : Glob) : Shape :=
  let parts := match g with
    | [.anyPrefix] => [anyBytesShape]
    | g => shapes g
  .concat (.look .startText :: parts ++ [.look .endText])

/-- Whether a glob is compared without an expression. -/
def isPlain (g : Glob) : Bool := isName g || isPath g || isExtension g || isStart g || isEnd g

/-- Whether a glob has an expression of its own. -/
def standsAlone (g : Glob) : Bool := !isPlain g && endsInExtension g.reverse

def joined (gs : List Glob) : List Glob := gs.filter fun g => !isPlain g && !endsInExtension g.reverse

def areUsable (gs : List Glob) : Bool :=
  gs.all (fun g => !g.isTooDeep) && gs.all (fun g => !g.standsAlone || g.expression.fits) &&
    Shape.fitTogether ((joined gs).map expression)

end SourceAudit.Glob
