import SourceAudit.Config.Decode
import SourceAudit.Config.Sanitize
import SourceAudit.FileTree
import SourceAudit.Toml.Parser

/-!
# Configuration files

`Config.find?` : the configuration file for a directory, which lies in it or above it.
`Config.load` : the configuration of a file, with warnings.
`Config.loadOrDefault` : the configuration for a directory; the standard one if there is none or it is broken.
-/

namespace SourceAudit

/-- Why a configuration cannot be loaded. -/
inductive ConfigError where
  | unreadable (path : Path) (e : FileError)
  | badSyntax (path : Path) (e : Toml.Error)
  | badContent (path : Path) (e : Document.DecodeError)

def ConfigError.message : ConfigError → String
  | unreadable path e => s!"Failed to read config file '{path}': {e.message}"
  | badSyntax path e => s!"Invalid TOML in '{path}': {e.message}"
  | badContent path e => s!"Invalid TOML in '{path}': {e.message}"

namespace Config

def fileName : String := "vibesec.toml"

/-- The rule files of a configuration as seen from where the configuration lies. -/
def resolvePaths (base : Path) (c : Config) : Config :=
  { c with rules := { c.rules with paths := c.rules.paths.map base.join } }

def parse (path : Path) (text : String) : Except ConfigError (Config × List String) := do
  let d ← (Toml.parse text).mapError (.badSyntax path)
  let given ← (read d).mapError (.badContent path)
  let (config, warnings) := given.sanitize
  let config := match path.parent? with
    | some base => config.resolvePaths base
    | none => config
  return (config, unknownKeys d ++ warnings)

def load (fs : FileSystem) (path : Path) : Except ConfigError (Config × List String) := do
  parse path (← (fs.read path).mapError (.unreadable path))

/-- The first configuration file in a directory and those above it, as far as the text of the path goes. -/
def find? (fs : FileSystem) (start : Path) : Option Path :=
  (start.chain.map fun dir => dir.join fileName).find? fs.contains

def loadOrDefault (fs : FileSystem) (start : Path) : Config × List String :=
  match find? fs start with
  | none => ({}, [])
  | some path =>
    match load fs path with
    | .ok loaded => loaded
    | .error e => ({}, [e.message])

end Config

end SourceAudit
