import SourceAudit.FileTree
import SourceAudit.Rule.Builtin
import SourceAudit.Rule.Decode
import SourceAudit.Toml.Parser
import SourceAudit.Yaml.Parser

/-!
# Rule files

A rule file is a YAML document if its extension says so, and else a TOML document.

`Rule.parseYaml`, `Rule.parseToml`, `Rule.loadFile` : the rules of a text or a file.
`RuleSet.load` : the built-in rules and those of files.
-/

namespace SourceAudit

/-- Why rules cannot be loaded. -/
inductive RuleLoadError where
  | unreadable (e : FileError)
  | yamlSyntax (e : Yaml.Error)
  | yamlContent (e : Document.DecodeError)
  | tomlSyntax (e : Toml.Error)
  | tomlContent (e : Document.DecodeError)

def RuleLoadError.message : RuleLoadError → String
  | unreadable e => "IO error: " ++ e.message
  | yamlSyntax e => "YAML parse error: " ++ e.message
  | yamlContent e => "YAML parse error: " ++ e.message
  | tomlSyntax e => "TOML parse error: " ++ e.message
  | tomlContent e => "TOML parse error: " ++ e.message

namespace Rule

def parseYaml (text : String) : Except RuleLoadError (List Rule) := do
  let d ← (do (← Yaml.parse text).document rulesOutline).mapError .yamlSyntax
  (rulesFile d).mapError .yamlContent

def parseToml (text : String) : Except RuleLoadError (List Rule) := do
  let d ← (Toml.parse text).mapError .tomlSyntax
  (rulesFile d).mapError .tomlContent

/-- Whether the name of a file says that it is a YAML document. -/
def isYamlFile (p : Path) : Bool := ["yaml", "yml"].contains (Text.asciiLowered (p.extension?.getD ""))

def loadFile (fs : FileSystem) (p : Path) : Except RuleLoadError (List Rule) := do
  let text ← (fs.read p).mapError .unreadable
  if isYamlFile p then parseYaml text else parseToml text

end Rule

namespace RuleSet

def builtin : RuleSet := Builtin.rules.foldl insert empty

/-- Adds the rules of a file, with a warning if it cannot be loaded. -/
def extendFromFile (fs : FileSystem) (s : RuleSet) (p : Path) : RuleSet × List String :=
  match Rule.loadFile fs p with
  | .ok rules => s.extend rules
  | .error e => (s, [s!"skipping {p}: {e.message}"])

/-- The built-in rules and then those of files, with warnings for all that is left out. -/
def load (fs : FileSystem) (paths : List Path) : RuleSet × List String :=
  paths.foldl (fun (s, warnings) p =>
    let (s, more) := s.extendFromFile fs p
    (s, warnings ++ more)) (empty.extend Builtin.rules)

end RuleSet

end SourceAudit
