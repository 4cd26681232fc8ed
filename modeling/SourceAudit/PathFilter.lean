import SourceAudit.Glob.Expression
import SourceAudit.Glob.Parser
import SourceAudit.Text.Blank
import SourceAudit.Text.Search

/-!
# Path filters

A pattern of a path filter stands for the paths that it matches and for all that is below them. A pattern without a
slash also matches at any depth.

`PathFilter.variants` : the globs that a pattern stands for.
`PathFilter.isIncluded` : whether a path passes.
-/

namespace SourceAudit

/-- Globs of the paths to take, if only some are taken, and of the paths to leave out. -/
structure PathFilter where
  taken : Option (List Glob) := none
  leftOut : List Glob := []

namespace PathFilter

/-- A pattern without leading `./` and without slashes at the end. -/
def normalize (pattern : String) : String :=
  String.ofList (Text.dropEndWhile (· = '/') (Text.dropRepeated ['.', '/'] pattern.toList))

/-- The texts of the globs that a pattern stands for. -/
def variants (pattern : String) : List String :=
  if pattern = "" then []
  else
    let below := pattern ++ "/**"
    if pattern.toList.contains '/' then [pattern, below] else [pattern, below, "**/" ++ pattern, "**/" ++ below]

/-- The globs among the texts that patterns stand for; what is no glob does not count. -/
def parsed (patterns : List String) : List Glob :=
  patterns.flatMap fun p => (variants (normalize p)).filterMap fun v => (Glob.parse v).toOption

/-- The globs of patterns. If they are not usable together, none of them counts. -/
def globs (patterns : List String) : List Glob := if Glob.areUsable (parsed patterns) then parsed patterns else []

/-- The filter that takes the paths of some patterns, or all if there are none, and leaves out those of others. -/
def ofPatterns (includes excludes : List String) : PathFilter where
  taken := if includes.isEmpty then none else some (globs includes)
  leftOut := globs excludes

/-- Whether a path passes. Leading `./` does not count. -/
def isIncluded (f : PathFilter) (relative : String) : Bool :=
  let path := String.ofList (Text.dropRepeated ['.', '/'] relative.toList)
  f.taken.all (fun gs => gs.any (·.isMatch path)) && !f.leftOut.any (·.isMatch path)

end PathFilter

end SourceAudit
