import SourceAudit.Glob.Basic

/-!
# How deep globs are nested

A glob is compared by an expression, in which each token has a depth: a part of it that is repeated, an alternative
and a row of parts are each one level deeper than what they are made of.

`Glob.isTooDeep` : whether the expression is nested deeper than `depthLimit`.
-/

namespace SourceAudit.Glob

/-- How deep an expression may be nested. -/
def depthLimit : Nat := 250

/-- How many parts a range has in a class: the bytes of its characters, with a range for the two in the middle. -/
def rangeParts (range : Char × Char) : Nat :=
  if range.1 = range.2 then (charBytes range.1).length
  else (charBytes range.1).length + (charBytes range.2).length - 1

def tokenParts : GlobToken → Nat
  | .literal c => (charBytes c).length
  | .anySuffix => 2
  | .oneOf branches => if allSilent branches then 0 else 1
  | _ => 1

def parts (ts : List GlobToken) : Nat := ts.foldl (fun n t => n + tokenParts t) 0

mutual

def tokenDepth : GlobToken → Nat
  | .literal _ | .any => 0
  | .star | .anySuffix => 1
  | .anyPrefix | .anyMiddle => 4
  | .byteClass _ ranges => if ranges.foldl (fun n r => n + rangeParts r) 0 = 1 then 1 else 2
  | .oneOf branches =>
    if allSilent branches then 0
    else (if 1 < (branches.filter fun b => !isSilent b).length then 2 else 1) + branchDepth branches

/-- How deep the deepest of some tokens is nested. -/
def depth : List GlobToken → Nat
  | [] => 0
  | t :: ts => max (tokenDepth t) (depth ts)

/-- How deep the deepest of some branches is nested; one that says nothing does not count. -/
def branchDepth : List (List GlobToken) → Nat
  | [] => 0
  | b :: more =>
    max (if isSilent b then 0 else if parts b = 1 then depth b else depth b + 1) (branchDepth more)

end

/-- Whether a glob is nested too deep. The two ends of the path are parts of the expression too, so it is a row. -/
def isTooDeep (g : Glob) : Bool := depthLimit < depth g + 1

end SourceAudit.Glob
