import SourceAudit.Cli.Arguments
import SourceAudit.Cli.Explain
import SourceAudit.Cli.Log
import SourceAudit.Config.File
import SourceAudit.Discovery
import SourceAudit.Rule.File
import SourceAudit.Scan

/-!
# Running commands

`run` : what a command prints and how it ends, from the files that it can see.
-/

namespace SourceAudit.Cli

/-- What is written to the error output. -/
inductive Notice where
  | log (r : Record)
  | text (s : String)

/-- What a command prints and how it ends. -/
structure Outcome where
  exitCode : Nat := 0
  stdout : String := ""
  stderr : List Notice := []

/-- What a command can see. -/
structure Environment where
  files : FileSystem
  /-- Whether text is shown in colours, unless the arguments say otherwise. -/
  colored : Bool := false
  /-- What tells the findings of a report apart, by their place in it. -/
  suffix : Nat → String

/-- Why a command fails. -/
inductive Failure where
  | invalidSeverity (text : String)
  | missingPath (path : Path)
  | invalidFormat (text : String) (valid : List String)

def Failure.message : Failure → String
  | invalidSeverity text => s!"Invalid severity '{text}'. Valid values: info, low, medium, high, critical"
  | missingPath path => s!"Path does not exist: {path}"
  | invalidFormat text valid => s!"Invalid format '{text}'. Valid values: " ++ ", ".intercalate valid

/-- The end of a command that fails after some warnings. -/
def Failure.outcome (warnings : List Record) (f : Failure) : Outcome where
  exitCode := 1
  stderr := warnings.map .log ++ [.text ("Error: " ++ f.message)]

/-! ## Loading -/

/-- The rules and the configuration for a path, and the warnings of loading them. -/
structure Loaded where
  rules : RuleSet
  config : Config
  warnings : List Record

def configDirectory (fs : FileSystem) (start : Path) : Path := if fs.isFile start then start.parent?.getD "." else start

def loadTarget : String := "vibesec::commands"

def load (fs : FileSystem) (start : Path) (extra : List Path) : Loaded :=
  let (config, configWarnings) := Config.loadOrDefault fs (configDirectory fs start)
  let (rules, ruleWarnings) := RuleSet.load fs (config.rules.paths ++ extra)
  { rules, config, warnings := (configWarnings ++ ruleWarnings).map (Record.mk loadTarget) }

/-! ## Scanning -/

def scanTarget : String := "vibesec::commands::scan"

def severityArgument (text : String) : Except Failure Severity :=
  (Severity.parse text).mapError fun _ => .invalidSeverity text

/-- What is found in a file. A file that cannot be read gives a warning. -/
def scanFile (fs : FileSystem) (scanner : Scanner) (file : FoundFile) : Except Outline.BuildError Report :=
  match fs.readFound file with
  | .ok content => scanner.scan file.path content
  | .error e => .ok { warnings := [s!"skipping {file.path}: {e.message}"] }

def scanFiles (fs : FileSystem) (scanner : Scanner) (files : List FoundFile) : Except Outline.BuildError Report := do
  return .concat (← files.mapM (scanFile fs scanner))

def scanReport (env : Environment) (options : ScanOptions) (findings : List Finding) (totalFiles : Nat) :
    Except Failure String :=
  let origin : Origin := { workingDirectory := env.files.workingDirectory, analyzedPath := options.path }
  match options.format with
  | "json" => .ok (jsonReport env.suffix origin findings totalFiles)
  | "ndjson" => .ok (recordReport env.suffix origin findings totalFiles)
  | "text" => .ok (textReport ⟨env.colored && !options.noColor⟩ (!options.noSnippets) findings totalFiles)
  | other => .error (.invalidFormat other ["text", "json", "ndjson"])

/-- Scans files and reports what is found. -/
def runScan (env : Environment) (options : ScanOptions) : Except Outline.BuildError Outcome := do
  let severities := do return (← severityArgument options.severity, ← severityArgument options.failOn)
  match severities with
  | .error e => return e.outcome []
  | .ok (least, failOn) =>
    let loaded := load env.files options.path options.rules
    match discover env.files loaded.config options.path with
    | none => return (Failure.missingPath options.path).outcome loaded.warnings
    | some [] => return { stdout := "No supported source files found.\n", stderr := loaded.warnings.map .log }
    | some files =>
      let report ← scanFiles env.files { rules := loaded.rules, config := loaded.config } files
      let warnings := loaded.warnings ++ report.warnings.map (Record.mk scanTarget)
      let findings := report.findings.filter fun f => f.severity.atLeast least
      match scanReport env options findings files.length with
      | .error e => return e.outcome warnings
      | .ok stdout =>
        return { exitCode := if findings.any fun f => f.severity.atLeast failOn then 1 else 0
                 stdout, stderr := warnings.map .log }

/-! ## Rules -/

/-- Lists the rules that a scan of the working directory would load. -/
def runList (env : Environment) (options : ListOptions) : Outcome :=
  let loaded := load env.files env.files.workingDirectory options.rules
  let rules := listing loaded.rules loaded.config options.language
  match options.format with
  | "json" => { stdout := listingJson rules, stderr := loaded.warnings.map .log }
  | "text" =>
    { stdout := listingText ⟨env.colored && !options.noColor⟩ rules, stderr := loaded.warnings.map .log }
  | other => (Failure.invalidFormat other ["text", "json"]).outcome loaded.warnings

def runExplain (env : Environment) (options : ExplainOptions) : Outcome :=
  let t : Terminal := ⟨env.colored && !options.noColor⟩
  let loaded := load env.files env.files.workingDirectory options.rules
  let warnings := loaded.warnings.map Notice.log
  match loaded.rules.get? options.target with
  | some rule => { stdout := ruleText t loaded.config rule, stderr := warnings }
  | none =>
    if Query.looksLikeQuery options.target then
      match Query.prepare loaded.config.analysis.optimizerHints options.target with
      | .ok q => { stdout := queryText t q, stderr := warnings }
      | .error e => { exitCode := 1, stderr := warnings ++ [.text (t.paint .boldRed "error:" ++ " " ++ e.message)] }
    else
      { exitCode := 1,
        stderr := warnings ++ [.text (Text.joinLines (unknownTargetLines t loaded.rules options.target))] }

/-! ## Commands -/

def run (env : Environment) : Command → Except Outline.BuildError Outcome
  | .scan options => runScan env options
  | .rules options => return runList env options
  | .explain options => return runExplain env options

/-- The error output of a command without the log records that the filter does not show, after what is said about
directives that mean nothing. -/
def Outcome.notices (o : Outcome) (log : LogOptions) : List Notice :=
  let (filter, ignored) := Filter.parse log.level
  ignored.map (fun (part, e) => .text ("ignoring `" ++ part ++ "`: " ++ e.message)) ++
    o.stderr.filter fun
      | .log r => filter.shows r
      | .text _ => true

/-- The texts of some notices; lines that follow each other and are no log records are one text. -/
def noticeTexts (json : Bool) : List Notice → List String
  | [] => []
  | .log r :: rest => r.render json :: noticeTexts json rest
  | .text s :: .text t :: rest => noticeTexts json (.text (s ++ "\n" ++ t) :: rest)
  | .text s :: rest => s :: noticeTexts json rest
termination_by notices => notices.length

def Outcome.errorTexts (o : Outcome) (log : LogOptions) : List String := noticeTexts log.json (o.notices log)

end SourceAudit.Cli
