import SourceAudit.Query.Token
import SourceAudit.Text.Ascii
import SourceAudit.Text.Search

/-!
# Telling queries from other patterns

`looksLikeQuery` is generous: a text with a keyword, or with both a bracket and a `:` or `|`, is taken for a query, and
the parser reports what is wrong with it.
-/

namespace SourceAudit.Query

/-- A character of a word in the sense of the keyword test. -/
def isPlainWordChar (c : Char) : Bool := c.isAlphanum || c == '_'

/-- Whether some word of the text is a keyword, in any case. -/
def hasKeyword (cs : List Char) : Bool :=
  (Text.runs isPlainWordChar cs).any fun word =>
    (Keyword.ofName? (String.ofList (Text.asciiUpper word))).isSome

/-- A round, square or curly bracket. -/
def isBracket (c : Char) : Bool :=
  c == '(' || c == ')' || c == '[' || c == ']' || c == '\x7b' || c == '\x7d'

def looksLikeQuery (pattern : String) : Bool :=
  let cs := pattern.toList
  hasKeyword cs || (cs.any isBracket && cs.any fun c => c == ':' || c == '|')

end SourceAudit.Query
