/-!
# Tokens of YAML

Indentation shows in the tokens: blocks open with `blockSequenceStart` or `blockMappingStart` and close with `blockEnd`.
-/

namespace SourceAudit.Yaml

/-- Why a text is not a YAML document. -/
inductive Error where
  | badCharacter
  | keyNotFinished
  | entryNotAllowed
  | keyNotAllowed
  | valueNotAllowed
  | badDirective
  | badVersion
  | repeatedDirective
  | badAnchor
  | badTag
  | unknownTagHandle
  | badBlockHeader
  | tabInIndentation
  | unexpectedSeparator
  | unclosedScalar
  | unknownEscape
  | badCode
  | unexpectedColon
  | noToken
  | noNode
  | noEntry
  | noKey
  | noComma
  | noDocumentStart
  | unknownAnchor
  | severalDocuments
  | tooDeep
  | tooManyReferences
  deriving DecidableEq, Repr

namespace Error

def message : Error → String
  | badCharacter => "control characters are not allowed"
  | keyNotFinished => "could not find expected ':'"
  | entryNotAllowed => "block sequence entries are not allowed in this context"
  | keyNotAllowed => "mapping keys are not allowed in this context"
  | valueNotAllowed => "mapping values are not allowed in this context"
  | badDirective => "could not find expected directive name"
  | badVersion => "found incompatible YAML document"
  | repeatedDirective => "found duplicate directive"
  | badAnchor => "did not find expected alphabetic or numeric character"
  | badTag => "did not find expected tag URI"
  | unknownTagHandle => "found undefined tag handle"
  | badBlockHeader => "did not find expected comment or line break"
  | tabInIndentation => "found a tab character that violates indentation"
  | unexpectedSeparator => "found unexpected document indicator"
  | unclosedScalar => "found unexpected end of stream"
  | unknownEscape => "found unknown escape character"
  | badCode => "found invalid Unicode character escape code"
  | unexpectedColon => "found unexpected ':'"
  | noToken => "found character that cannot start any token"
  | noNode => "did not find expected node content"
  | noEntry => "did not find expected '-' indicator"
  | noKey => "did not find expected key"
  | noComma => "did not find expected ',' or closing bracket"
  | noDocumentStart => "did not find expected <document start>"
  | unknownAnchor => "unknown anchor"
  | severalDocuments => "deserializing from YAML containing more than one document is not supported"
  | tooDeep => "recursion limit exceeded"
  | tooManyReferences => "repetition limit exceeded"

end Error

/-- How a scalar is written. -/
inductive Style where
  /-- Without quotes and not as a block. -/
  | plain
  /-- As a block that keeps its lines. -/
  | literal
  /-- In quotes, or as a block with folded lines. -/
  | other
  deriving DecidableEq, Repr

abbrev TagText := List Nat

/-- A token. A tag is a handle, such as `!` or `!e!`, and what follows it; a handle that is empty stands for nothing. -/
inductive Token where
  | versionDirective (major minor : Nat)
  | tagDirective (handle meaning : TagText)
  | documentStart
  | documentEnd
  | blockSequenceStart
  | blockMappingStart
  | blockEnd
  | flowSequenceStart
  | flowSequenceEnd
  | flowMappingStart
  | flowMappingEnd
  | blockEntry
  | flowEntry
  | key
  | value
  | alias (name : String)
  | anchor (name : String)
  | tag (handle suffix : TagText)
  | scalar (text : String) (style : Style)
  deriving DecidableEq, Repr

end SourceAudit.Yaml
