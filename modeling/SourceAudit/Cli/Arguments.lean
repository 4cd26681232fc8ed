import SourceAudit.Path

/-!
# Command line arguments

`parse` : what the arguments ask for, or why they ask for nothing.

Arguments are read from left to right. An option may be there once, unless it collects its values; its value follows it,
or is attached to it by `=`, and to a short option also without it. After `--` there are only positional arguments.
-/

namespace SourceAudit.Cli

/-! ## What can be asked for -/

structure LogOptions where
  level : String := "warn"
  json : Bool := false
  deriving DecidableEq, Repr

structure ScanOptions where
  path : Path := "."
  format : String := "text"
  rules : List Path := []
  severity : String := "info"
  failOn : String := "high"
  noSnippets : Bool := false
  noColor : Bool := false
  deriving DecidableEq, Repr

structure ListOptions where
  language : Option String := none
  rules : List Path := []
  format : String := "text"
  noColor : Bool := false
  deriving DecidableEq, Repr

structure ExplainOptions where
  target : String
  rules : List Path := []
  noColor : Bool := false
  deriving DecidableEq, Repr

inductive Command where
  | scan (options : ScanOptions)
  | rules (options : ListOptions)
  | explain (options : ExplainOptions)
  deriving DecidableEq, Repr

/-- What the arguments ask for. -/
inductive Request where
  | run (log : LogOptions) (command : Command)
  | help
  | version
  deriving DecidableEq, Repr

/-- Why arguments ask for nothing. -/
inductive UsageError where
  | missingCommand
  | unknownCommand (name : String)
  | unknownOption (argument : String)
  | missingValue (option : String)
  | emptyValue (name : String)
  | unexpectedValue (option : String)
  | repeated (option : String)
  | unexpectedArgument (argument : String)
  | missingArgument (name : String)
  deriving DecidableEq, Repr

def UsageError.message : UsageError → String
  | missingCommand => "error: a subcommand is required but one was not provided"
  | unknownCommand name => s!"error: unrecognized subcommand '{name}'"
  | unknownOption argument => s!"error: unexpected argument '{argument}' found"
  | missingValue option => s!"error: a value is required for '--{option}' but none was supplied"
  | emptyValue name => s!"error: a value is required for '{name}' but none was supplied"
  | unexpectedValue option => s!"error: unexpected value for '--{option}' found; no more were expected"
  | repeated option => s!"error: the argument '--{option}' cannot be used multiple times"
  | unexpectedArgument argument => s!"error: unexpected argument '{argument}' found"
  | missingArgument name => s!"error: the following required arguments were not provided: <{name}>"

/-! ## Options of a command -/

/-- Whether an option takes a value, and how often it may be there. -/
inductive Arity where
  | flag
  | once
  | many
  deriving DecidableEq, Repr

/-- An option that a command knows. -/
structure OptionSpec where
  name : String
  arity : Arity
  short : Option Char := none
  /-- The value is a path, which is not empty. -/
  isPath : Bool := false

/-- The arguments that a command knows. -/
structure CommandSpec where
  options : List OptionSpec
  /-- The name of the positional argument, if there is one, and whether it is a path. -/
  positional : Option (String × Bool) := none
  /-- Whether the version can be asked for. -/
  hasVersion : Bool := false

def logSpecs : List OptionSpec := [⟨"log-level", .once, none, false⟩, ⟨"log-json", .flag, none, false⟩]

def formatSpec : OptionSpec := ⟨"format", .once, some 'f', false⟩

def rulesSpec : OptionSpec := ⟨"rules", .many, none, true⟩

def noColorSpec : OptionSpec := ⟨"no-color", .flag, none, false⟩

def topSpec : CommandSpec := { options := logSpecs, hasVersion := true }

def scanSpec : CommandSpec where
  options := logSpecs ++ [formatSpec, rulesSpec, ⟨"severity", .once, none, false⟩, ⟨"fail-on", .once, none, false⟩,
    ⟨"no-snippets", .flag, none, false⟩, noColorSpec]
  positional := some ("PATH", true)

def listSpec : CommandSpec where
  options := logSpecs ++ [⟨"language", .once, none, false⟩, rulesSpec, formatSpec, noColorSpec]

def explainSpec : CommandSpec where
  options := logSpecs ++ [rulesSpec, noColorSpec]
  positional := some ("RULE_ID_OR_QUERY", false)

/-! ## Reading -/

/-- The arguments that were found: options with their values (nothing for a flag), and positional arguments. -/
structure Found where
  options : List (String × String) := []
  positional : List String := []

namespace Found

def has (f : Found) (name : String) : Bool := f.options.any (·.1 = name)

def value? (f : Found) (name : String) : Option String := f.options.lookup name

def values (f : Found) (name : String) : List String :=
  (f.options.filter (·.1 = name)).map (·.2)

def addOption (f : Found) (spec : OptionSpec) (value : String) : Except UsageError Found :=
  if spec.arity ≠ .many && f.has spec.name then .error (.repeated spec.name)
  else if spec.isPath && value = "" then .error (.emptyValue spec.name)
  else .ok { f with options := f.options ++ [(spec.name, value)] }

def addPositional (f : Found) (spec : CommandSpec) (value : String) : Except UsageError Found :=
  match spec.positional, f.positional with
  | some (name, isPath), [] =>
    if isPath && value = "" then .error (.emptyValue name) else .ok { f with positional := [value] }
  | _, _ => .error (.unexpectedArgument value)

end Found

/-- How reading arguments ends. -/
inductive Ending where
  /-- All arguments are read. -/
  | done (found : Found)
  /-- A command was found, with the arguments after it. -/
  | command (found : Found) (name : String) (rest : List String)
  | help
  | version

/-- What an argument looks like. -/
inductive Shape where
  | long (name : String) (value : Option String)
  | short (letters : List Char)
  | escape
  | plain

/-- What an argument looks like. A single hyphen is no option. -/
def shapeOf (argument : String) : Shape :=
  match argument.toList with
  | ['-', '-'] => .escape
  | '-' :: '-' :: cs =>
    let name := cs.takeWhile (· ≠ '=')
    .long (String.ofList name)
      (if name.length = cs.length then none else some (String.ofList (cs.drop (name.length + 1))))
  | ['-'] => .plain
  | '-' :: cs => .short cs
  | _ => .plain

/-- Whether an argument can be the value of the option before it. -/
def isPlain (argument : String) : Bool :=
  match shapeOf argument with
  | .plain => true
  | _ => false

inductive LongOption where
  | help
  | version
  | takes (spec : OptionSpec) (value : String)
  | needsValue (spec : OptionSpec)

def readLong (spec : CommandSpec) (argument name : String) (value : Option String) : Except UsageError LongOption :=
  match spec.options.find? (·.name = name) with
  | some o =>
    match o.arity, value with
    | .flag, none => .ok (.takes o "")
    | .flag, some _ => .error (.unexpectedValue name)
    | _, some v => .ok (.takes o v)
    | _, none => .ok (.needsValue o)
  | none =>
    if name = "help" || (name = "version" && spec.hasVersion) then
      if value.isSome then .error (.unexpectedValue name) else .ok (if name = "help" then .help else .version)
    else .error (.unknownOption argument)

/-- Finds a short option. Only its first letter counts: help and version end the reading, and what follows another one
is its value. -/
def readShort (spec : CommandSpec) (argument : String) : List Char → Except UsageError LongOption
  | [] => .error (.unknownOption argument)
  | c :: cs =>
    if c = 'h' then .ok .help
    else if c = 'V' && spec.hasVersion then .ok .version
    else
      match spec.options.find? (·.short = some c), cs with
      | some o, [] => .ok (.needsValue o)
      | some o, '=' :: value => .ok (.takes o (String.ofList value))
      | some o, value => .ok (.takes o (String.ofList value))
      | none, _ => .error (.unknownOption argument)

/-- Reads arguments from left to right; with `commands` the first one that is no option names a command. -/
def readArguments (spec : CommandSpec) (commands : Bool) (found : Found) : List String → Except UsageError Ending
  | [] => .ok (.done found)
  | argument :: rest =>
    let step (option : LongOption) : Except UsageError Ending :=
      match option with
      | .help => .ok .help
      | .version => .ok .version
      | .takes o value =>
        match found.addOption o value with
        | .ok found => readArguments spec commands found rest
        | .error e => .error e
      | .needsValue o =>
        match rest with
        | [] => .error (.missingValue o.name)
        | value :: rest =>
          if isPlain value then
            match found.addOption o value with
            | .ok found => readArguments spec commands found rest
            | .error e => .error e
          else .error (.missingValue o.name)
    match shapeOf argument with
    | .long name value =>
      match readLong spec argument name value with
      | .ok option => step option
      | .error e => .error e
    | .short letters =>
      match readShort spec argument letters with
      | .ok option => step option
      | .error e => .error e
    | .escape =>
      match rest.foldlM (fun found value => found.addPositional spec value) found with
      | .ok found => .ok (.done found)
      | .error e => .error e
    | .plain =>
      if commands then .ok (.command found argument rest)
      else
        match found.addPositional spec argument with
        | .ok found => readArguments spec commands found rest
        | .error e => .error e

/-! ## Commands -/

/-- How to log: what follows the command counts before what comes first. -/
def logOptions (top sub : Found) : LogOptions where
  level := (sub.value? "log-level").getD ((top.value? "log-level").getD "warn")
  json := sub.has "log-json" || top.has "log-json"

def commandOf (spec : CommandSpec) (top : Found) (arguments : List String)
    (build : Found → Except UsageError Command) : Except UsageError Request := do
  match ← readArguments spec false {} arguments with
  | .done found => return .run (logOptions top found) (← build found)
  | .command _ name _ => .error (.unexpectedArgument name)
  | .help => return .help
  | .version => return .version

def scanOf (f : Found) : ScanOptions where
  path := f.positional.headD "."
  format := (f.value? "format").getD "text"
  rules := f.values "rules"
  severity := (f.value? "severity").getD "info"
  failOn := (f.value? "fail-on").getD "high"
  noSnippets := f.has "no-snippets"
  noColor := f.has "no-color"

def listOf (f : Found) : ListOptions where
  language := f.value? "language"
  rules := f.values "rules"
  format := (f.value? "format").getD "text"
  noColor := f.has "no-color"

def explainOf (f : Found) : Except UsageError ExplainOptions :=
  match f.positional with
  | target :: _ => .ok { target, rules := f.values "rules", noColor := f.has "no-color" }
  | [] => .error (.missingArgument "RULE_ID_OR_QUERY")

/-- Help about commands: at most one name of a command may follow. -/
def helpOf : List String → Except UsageError Request
  | [] => .ok .help
  | [name] => if ["scan", "rules", "explain", "help"].contains name then .ok .help else .error (.unknownCommand name)
  | name :: next :: _ =>
    .error (.unknownCommand (if ["scan", "rules", "explain", "help"].contains name then next else name))

def parse (arguments : List String) : Except UsageError Request := do
  match ← readArguments topSpec true {} arguments with
  | .done _ => .error .missingCommand
  | .help => return .help
  | .version => return .version
  | .command top name rest =>
    match name with
    | "scan" => commandOf scanSpec top rest fun f => .ok (.scan (scanOf f))
    | "rules" => commandOf listSpec top rest fun f => .ok (.rules (listOf f))
    | "explain" => commandOf explainSpec top rest fun f => do return .explain (← explainOf f)
    | "help" => helpOf rest
    | _ => .error (.unknownCommand name)

end SourceAudit.Cli
