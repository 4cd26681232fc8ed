import SourceAudit.Text.Ascii
import SourceAudit.Text.Search

/-!
# Kinds of sinks

`SinkCategory.ofText` tells from the words of a sink what kind of operation it is, and `SinkCategory.recommendations`
what to do about data that reaches it.
-/

namespace SourceAudit.Taint

/-- What a sink does with the data that reaches it. -/
inductive SinkCategory where
  | sqlInjection
  | commandInjection
  | codeExecution
  | xssSink
  | pathTraversal
  | networkRequest
  | deserialization
  | unknown
  deriving DecidableEq, Repr

namespace SinkCategory

def name : SinkCategory → String
  | sqlInjection => "sql_injection"
  | commandInjection => "command_injection"
  | codeExecution => "code_execution"
  | xssSink => "xss_sink"
  | pathTraversal => "path_traversal"
  | networkRequest => "network_request"
  | deserialization => "deserialization"
  | unknown => "unknown"

/-- The words that give a category away, in the order in which the categories are tried. -/
def keywords : List (SinkCategory × List String) := [
  (codeExecution, ["eval", "function", "settimeout", "setinterval", "runincontext", "compile"]),
  (commandInjection,
    ["exec", "execsync", "spawn", "system", "popen", "subprocess", "child_process", "shell_exec"]),
  (sqlInjection, ["query", "execute", "executemany", "raw", "cursor", "sql", "knex", "sequelize"]),
  (xssSink,
    ["innerhtml", "outerhtml", "write", "writeln", "insertadjacenthtml", "render_template_string", "html"]),
  (pathTraversal,
    ["open", "readfile", "readfilesync", "writefile", "send_file", "sendfile", "createreadstream", "unlink"]),
  (networkRequest, ["fetch", "axios", "urlopen", "requests", "http"]),
  (deserialization, ["pickle", "loads", "unserialize", "yaml"])]

/-- The words of a text: runs of basic letters, digits and underscores, in lower case. -/
def words (text : String) : List String :=
  (Text.runs (fun c => c.isAlphanum || c == '_') (Text.asciiLower text.toList)).map String.ofList

/-- The category of a sink with a given text: the first that has one of its words. -/
def ofText (text : String) : SinkCategory :=
  let present := words text
  match keywords.find? fun (_, ks) => ks.any fun k => present.contains k with
  | some (category, _) => category
  | none => unknown

/-- What to do about data that reaches a sink of a category. -/
def advice : SinkCategory → List String
  | sqlInjection =>
    ["Use parameterized queries or prepared statements instead of building SQL strings",
      "Use an ORM or query builder that escapes values"]
  | commandInjection =>
    ["Avoid passing untrusted data to shell commands",
      "Pass arguments as a list without a shell and allow-list accepted values"]
  | codeExecution =>
    ["Never evaluate untrusted data as code",
      "Replace dynamic evaluation with explicit dispatch or a safe parser"]
  | xssSink =>
    ["Encode output for the HTML context it is written to",
      "Prefer text APIs such as textContent over HTML injection"]
  | pathTraversal =>
    ["Resolve the path and verify it stays inside an allowed base directory",
      "Reject path separators and `..` segments in user-supplied names"]
  | networkRequest => ["Validate request targets against an allow-list of hosts"]
  | deserialization => ["Deserialize untrusted data only with safe loaders and explicit schemas"]
  | unknown => []

def recommendations (c : SinkCategory) : List String :=
  "Validate and sanitize untrusted input before it reaches the sink" :: c.advice

end SinkCategory

end SourceAudit.Taint
