/-!
# Tokens of the query language

A `Token` is a kind and the position at which it starts. `TokenKind.describe` is the wording of a kind in messages.
-/

namespace SourceAudit.Query

/-- The words with a meaning of their own; they are recognised in any case. -/
inductive Keyword where
  | taint
  | and
  | or
  | not
  | source
  | sink
  | sanitizer
  deriving DecidableEq, Repr

namespace Keyword

def name : Keyword → String
  | taint => "TAINT"
  | and => "AND"
  | or => "OR"
  | not => "NOT"
  | source => "SOURCE"
  | sink => "SINK"
  | sanitizer => "SANITIZER"

def all : List Keyword := [taint, and, or, not, source, sink, sanitizer]

/-- The keyword with the given spelling in capitals. -/
def ofName? (word : String) : Option Keyword := all.find? (·.name = word)

end Keyword

/-- What a token is, and the text it carries. -/
inductive TokenKind where
  | keyword (word : Keyword)
  | leftParen
  | rightParen
  | leftBrace
  | rightBrace
  | leftBracket
  | rightBracket
  | colon
  | comma
  | pipe
  | identifier (name : String)
  | string (value : String)
  | regex (pattern flags : String)
  /-- A character without a meaning, or a literal that is never closed. -/
  | unknown (text : String)
  /-- The end of the query. -/
  | eof
  deriving DecidableEq, Repr

namespace TokenKind

def describe : TokenKind → String
  | keyword word => word.name
  | leftParen => "'('"
  | rightParen => "')'"
  | leftBrace => "'\x7b'"
  | rightBrace => "'\x7d'"
  | leftBracket => "'['"
  | rightBracket => "']'"
  | colon => "':'"
  | comma => "','"
  | pipe => "'|'"
  | identifier name => "identifier `" ++ name ++ "`"
  | string value => "string \"" ++ value ++ "\""
  | regex pattern _ => "regex /" ++ pattern ++ "/"
  | unknown text => "unexpected `" ++ text ++ "`"
  | eof => "end of query"

end TokenKind

/-- A place in a query: bytes from the start, and one-based line and column, the column counted in characters. -/
structure Position where
  offset : Nat
  line : Nat
  column : Nat
  deriving DecidableEq, Repr

namespace Position

def start : Position := ⟨0, 1, 1⟩

def step (p : Position) (c : Char) : Position :=
  if c = '\n' then ⟨p.offset + c.utf8Size, p.line + 1, 1⟩
  else ⟨p.offset + c.utf8Size, p.line, p.column + 1⟩

/-- The place after a text. -/
def advance (p : Position) (cs : List Char) : Position := cs.foldl step p

end Position

structure Token where
  kind : TokenKind
  position : Position
  deriving DecidableEq, Repr

end SourceAudit.Query
