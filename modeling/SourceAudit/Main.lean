import SourceAudit.Cli.Run

/-!
# The command line

Reads the arguments and the files that a command can see, runs the command, and prints what it says.
-/

namespace SourceAudit.Cli

/-! ## Files -/

def placePath (place : List String) : Path := "/" ++ "/".intercalate place

def fileType? (path : Path) : IO (Option IO.FS.FileType) := do
  match ← ((← IO.currentDir) / path).metadata.toBaseIO with
  | .ok data => return some data.type
  | .error _ => return none

/-- The content of a file, unless its bytes are no text. -/
def readContent (path : Path) : IO FileTree := do
  return .file (String.fromUTF8? (← IO.FS.readBinFile ((← IO.currentDir) / path)))

/-- The tree below a directory, as far as a scan looks at it, down to some depth. -/
def readTree : Nat → Path → IO FileTree
  | 0, _ => return .dir []
  | depth + 1, path => do
    let entries ← ((← IO.currentDir) / path).readDir
    let read ← entries.toList.filterMapM fun e => do
      let below := path.join e.fileName
      match ← e.path.symlinkMetadata.toBaseIO with
      | .error _ => return none
      | .ok data =>
        match data.type with
        | .dir => if entersDirectory e.fileName then return some (e.fileName, ← readTree depth below) else return none
        | .file => return some (e.fileName, ← if isSupported below then readContent below else pure (.file (some "")))
        | .symlink => return none
        | .other => return some (e.fileName, .other)
    return .dir read

/-- Adds what is on the way along a path. -/
def look (fs : FileSystem) (path : Path) : IO FileSystem := do
  let start := if path.isAbsolute then [] else fs.cwd
  let (fs, _) ← (Path.segments path.toList).foldlM (fun (fs, here) segment => do
    let here := if Path.isIdle segment then here
      else if segment = ['.', '.'] then here.dropLast
      else here ++ [String.ofList segment]
    match ← fileType? (placePath here) with
    | some .dir =>
      if (fs.root.find? here).any (·.isDir) then return (fs, here)
      else return ({ fs with root := FileTree.insert (.dir []) here fs.root }, here)
    | some .file => return ({ fs with root := FileTree.insert (← readContent (placePath here)) here fs.root }, here)
    | _ => return (fs, here)) (fs, start)
  return fs

def lookBelow (fs : FileSystem) (path : Path) : IO FileSystem := do
  let fs ← look fs path
  match fs.resolve path with
  | .ok place =>
    if (fs.root.find? place).any (·.isDir) then
      return { fs with root := FileTree.insert (← readTree 256 (placePath place)) place fs.root }
    else return fs
  | .error _ => return fs

def filesFor (command : Command) : IO FileSystem := do
  let place := (((← IO.currentDir).toString.splitOn "/").filter (· ≠ ""))
  let fs : FileSystem := { root := FileTree.insert (.dir []) place (.dir []), cwd := place }
  let (fs, start, extra) ← match command with
    | .scan o => pure (← lookBelow fs o.path, o.path, o.rules)
    | .rules o => pure (fs, fs.workingDirectory, o.rules)
    | .explain o => pure (fs, fs.workingDirectory, o.rules)
  let dir := configDirectory fs start
  let fs ← dir.chain.foldlM (fun fs d => look fs (d.join Config.fileName)) fs
  let (config, _) := Config.loadOrDefault fs dir
  (config.rules.paths ++ extra).foldlM look fs

/-! ## Identifiers and colours -/

/-- What tells the findings of a report apart: 32 digits in base 16. -/
def randomSuffix : IO (Nat → String) := do
  let bound := Binary64.twoTo 64
  let seed ← IO.rand 0 (bound - 1)
  let step ← IO.rand 0 (bound - 1)
  return fun i =>
    let digits := Nat.toDigits 16 ((seed * bound + (i + 1) * (2 * step + 1)) % (bound * bound))
    String.ofList (List.replicate (32 - digits.length) '0' ++ digits)

def wantsColors : IO Bool := do
  if (← IO.getEnv "NO_COLOR").isSome then return false
  if ((← IO.getEnv "CLICOLOR_FORCE").any (· ≠ "0")) then return true
  if (← IO.getEnv "CLICOLOR") = some "0" then return false
  (← IO.getStdout).isTty

/-! ## Running -/

def helpText : String := linesText [
  "Usage: vibesec [OPTIONS] <COMMAND>",
  "",
  "Commands:",
  "  scan     Scan a file or directory for security issues",
  "  rules    List the loaded rules",
  "  explain  Show a rule, or parse and validate an EQL query",
  "  help     Print this message or the help of the given subcommand(s)"]

/-- Runs a command and prints what it says. -/
def runCommand (log : LogOptions) (command : Command) : IO UInt32 := do
  let env : Environment := { files := ← filesFor command, colored := ← wantsColors, suffix := ← randomSuffix }
  match run env command with
  | .error _ =>
    IO.eprintln "the syntax tree of a file cannot be built"
    return 101
  | .ok outcome =>
    (outcome.errorTexts log).forM IO.eprintln
    IO.print outcome.stdout
    return outcome.exitCode.toUInt32

end SourceAudit.Cli

def main (arguments : List String) : IO UInt32 := do
  match SourceAudit.Cli.parse arguments with
  | .ok (.run log command) => SourceAudit.Cli.runCommand log command
  | .ok .help =>
    IO.print SourceAudit.Cli.helpText
    return 0
  | .ok .version =>
    IO.print SourceAudit.Cli.versionText
    return 0
  | .error e =>
    IO.eprintln e.message
    return 2
