import SourceAudit.Query.Hints
import SourceAudit.Query.Parser
import SourceAudit.Query.Validation

/-!
# Queries ready to run

`prepare` reads and validates the text of a query. A query runs over one whole file, so NOT is allowed in it.
-/

namespace SourceAudit.Query

/-- Why a text cannot be run as a query. -/
inductive PrepareError where
  | unreadable (error : SyntaxError)
  | invalid (violations : List Located)

namespace PrepareError

def message : PrepareError → String
  | unreadable error => error.message
  | invalid violations => "invalid query: " ++ "; ".intercalate (violations.map Located.message)

end PrepareError

/-- Reads and validates a query, and adds hints to it if asked. -/
def prepare (hints : Bool) (source : String) : Except PrepareError Query :=
  match parseQuery source with
  | .error e => .error (.unreadable e)
  | .ok q =>
    match q.violations true with
    | [] => .ok (if hints then q.withHints else q)
    | vs => .error (.invalid vs)

end SourceAudit.Query
