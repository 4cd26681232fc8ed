import SourceAudit.Text.Ascii

/-!
# Languages of files

`languageOf?` tells the language of a file from the end of its name.
-/

namespace SourceAudit

/-- What follows the last dot of a path, in lower case. -/
def extensionOf? (path : String) : Option String :=
  let cs := path.toList
  if cs.contains '.' then
    some (String.ofList (Text.asciiLower (cs.reverse.takeWhile (· != '.')).reverse))
  else none

def languageOfExtension? : String → Option String
  | "py" | "pyw" => some "python"
  | "js" | "jsx" | "mjs" | "cjs" => some "javascript"
  | "ts" | "tsx" | "mts" | "cts" => some "typescript"
  | "go" => some "go"
  | "java" => some "java"
  | "rb" => some "ruby"
  | "php" => some "php"
  | "rs" => some "rust"
  | _ => none

def languageOf? (path : String) : Option String := (extensionOf? path).bind languageOfExtension?

end SourceAudit
