import SourceAudit.Query.Expr
import SourceAudit.Query.Token

/-!
# Syntax errors

A `SyntaxError` is a cause and the position of the token at which parsing stopped. `SyntaxCause.message` is the wording
of a cause, `SyntaxError.message` adds the position.
-/

namespace SourceAudit.Query

/-- What the parser needs at a token. -/
inductive Expectation where
  /-- A fixed token, in a context that the message names. -/
  | token (kind : TokenKind) (context : String)
  | endOfQuery
  | expression
  | taintField
  | reasonText
  | reasonOption
  | nodeKind
  | nodeKindAfterPipe
  | pattern
  deriving DecidableEq, Repr

namespace Expectation

def describe : Expectation → String
  | token kind context => "expected " ++ kind.describe ++ " " ++ context
  | endOfQuery => "expected end of query"
  | expression => "expected TAINT, AND, OR, NOT or a node matcher"
  | taintField => "expected SOURCE, SINK or SANITIZER inside TAINT"
  | reasonText => "expected string for `reason`"
  | reasonOption => "expected `reason` option or '\x7d'"
  | nodeKind => "expected node kind"
  | nodeKindAfterPipe => "expected node kind after '|'"
  | pattern => "expected string, identifier or regex pattern"

end Expectation

def maxNesting : Nat := 64

/-- Why a token stream is no query. -/
inductive SyntaxCause where
  | unexpected (expectation : Expectation) (found : TokenKind)
  | duplicateSource
  | duplicateSink
  | missingSource
  | missingSink
  | tooDeep
  | noOperand (op : LogicalOp)
  | unsupportedFlag (flag : Char)
  /-- The tokens end without an end marker. -/
  | unexpectedEnd
  deriving DecidableEq, Repr

namespace SyntaxCause

/-- The wording of a token in the wrong place; a literal that is never closed is named as such. -/
def unexpectedMessage (expectation : Expectation) : TokenKind → String
  | .unknown text =>
    match text.toList with
    | '\x22' :: _ => "unterminated string literal (" ++ expectation.describe ++ ")"
    | '\x27' :: _ => "unterminated string literal (" ++ expectation.describe ++ ")"
    | '/' :: _ => "unterminated regex literal (" ++ expectation.describe ++ ")"
    | _ => expectation.describe ++ ", found " ++ (TokenKind.unknown text).describe
  | found => expectation.describe ++ ", found " ++ found.describe

def message : SyntaxCause → String
  | unexpected expectation found => unexpectedMessage expectation found
  | duplicateSource => "duplicate SOURCE in TAINT"
  | duplicateSink => "duplicate SINK in TAINT"
  | missingSource => "TAINT is missing SOURCE"
  | missingSink => "TAINT is missing SINK"
  | tooDeep => "query nests deeper than " ++ toString maxNesting ++ " levels"
  | noOperand op => op.name ++ " requires at least one operand"
  | unsupportedFlag flag => "unsupported regex flag `" ++ String.ofList [flag] ++ "`"
  | unexpectedEnd => "unexpected end of query"

end SyntaxCause

/-- A cause and where it was noticed. -/
structure SyntaxError where
  cause : SyntaxCause
  position : Position
  deriving DecidableEq, Repr

namespace SyntaxError

def message (e : SyntaxError) : String :=
  "syntax error at line " ++ toString e.position.line ++ ", column " ++ toString e.position.column ++ ": " ++
    e.cause.message

end SyntaxError

end SourceAudit.Query
