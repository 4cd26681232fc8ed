/-!
# Patterns that are no regular expressions

`Error.message` words each cause.
-/

namespace SourceAudit.Regex

/-- Why a text is not a regular expression. -/
inductive Error where
  | unclosedGroup
  | unopenedGroup
  | lookAround
  | backreference
  | nothingToRepeat
  | countMissing
  | countUnclosed
  | countReversed
  | countTooLarge
  | escapeUnfinished
  | escapeUnknown
  | hexDigit
  | hexEmpty
  | hexNoCharacter
  | propertyName
  | propertyUnknown
  | boundaryUnclosed
  | boundaryUnknown
  | classUnclosed
  | classRangeEnds
  | classRangeReversed
  | classItem
  | flagUnknown
  | flagTwice
  | flagNegatedTwice
  | flagNegationDangling
  | flagsUnfinished
  | groupNameInvalid
  | groupNameEmpty
  | groupNameUnfinished
  | groupNameTwice
  | nestedTooDeep
  | needsUnicode
  | notText
  | tooLarge
  deriving DecidableEq, Repr, Inhabited

namespace Error

def phrase : Error → String
  | unclosedGroup => "unclosed group"
  | unopenedGroup => "unopened group"
  | lookAround => "look-around is not supported"
  | backreference => "backreferences are not supported"
  | nothingToRepeat => "repetition operator missing expression"
  | countMissing => "repetition quantifier expects a valid decimal"
  | countUnclosed => "unclosed counted repetition"
  | countReversed => "invalid repetition count range"
  | countTooLarge => "decimal literal invalid"
  | escapeUnfinished => "incomplete escape sequence"
  | escapeUnknown => "unrecognized escape sequence"
  | hexDigit => "invalid hexadecimal digit"
  | hexEmpty => "hexadecimal literal empty"
  | hexNoCharacter => "hexadecimal literal is not a Unicode scalar value"
  | propertyName => "invalid Unicode character class"
  | propertyUnknown => "Unicode property not found"
  | boundaryUnclosed => "special word boundary assertion is unclosed"
  | boundaryUnknown => "unrecognized special word boundary assertion"
  | classUnclosed => "unclosed character class"
  | classRangeEnds => "invalid range boundary, must be a literal"
  | classRangeReversed => "invalid character class range"
  | classItem => "invalid escape sequence found in character class"
  | flagUnknown => "unrecognized flag"
  | flagTwice => "duplicate flag"
  | flagNegatedTwice => "flag negation operator repeated"
  | flagNegationDangling => "dangling flag negation operator"
  | flagsUnfinished => "expected flag but got end of regex"
  | groupNameInvalid => "invalid capture group character"
  | groupNameEmpty => "empty capture group name"
  | groupNameUnfinished => "unclosed capture group name"
  | groupNameTwice => "duplicate capture group name"
  | nestedTooDeep => "exceeded the maximum number of nested parentheses/brackets"
  | needsUnicode => "Unicode not allowed here"
  | notText => "pattern can match invalid UTF-8"
  | tooLarge => "Compiled regex exceeds size limit of 10485760 bytes."

/-- The message, on one line: without the copy of the pattern, and without the mark under the place of the error. A
pattern that is too large has been read without an error. -/
def message (e : Error) : String := if e = tooLarge then e.phrase else "regex parse error: " ++ e.phrase

def all : List Error :=
  [unclosedGroup, unopenedGroup, lookAround, backreference, nothingToRepeat, countMissing, countUnclosed, countReversed,
    countTooLarge, escapeUnfinished, escapeUnknown, hexDigit, hexEmpty, hexNoCharacter, propertyName, propertyUnknown,
    boundaryUnclosed, boundaryUnknown, classUnclosed, classRangeEnds, classRangeReversed, classItem,
    flagUnknown, flagTwice, flagNegatedTwice, flagNegationDangling, flagsUnfinished, groupNameInvalid, groupNameEmpty,
    groupNameUnfinished,
    groupNameTwice, nestedTooDeep, needsUnicode, notText, tooLarge]

end Error

end SourceAudit.Regex
