import SourceAudit.Regex.Match

/-!
# Shapes of code

The regular expressions by which function declarations, imports, assignments, calls and members are recognised.
-/

namespace SourceAudit.Outline

open Regex

def blanks : Regex := star (set .blank)

def someBlanks : Regex := plus (set .blank)

def word (s : String) : Regex := literal s.toList

def oneOf (ss : List String) : Regex := alts (ss.map word)

/-- A name: a basic letter, underscore or dollar sign, then word characters and dollar signs. -/
def name : Regex :=
  seq (set (.unions [.span 'A' 'Z', .span 'a' 'z', .single '_', .single '$']))
    (star (set (.union .word (.single '$'))))

def dotName : Regex := seq (word ".") name

/-- A name, then any number of names after dots. -/
def dottedName : Regex := seq name (star dotName)

def modulePath : Regex := plus (set (.union .word (.single '.')))

/-- A word that may stand before another, with the blanks after it. -/
def leading (r : Regex) : Regex := opt (seq r someBlanks)

/-- The start of a function declaration; group 1 is the name of the function. -/
def functionShape : Regex :=
  seqs [look .startText, blanks, leading (word "export"), leading (word "default"),
    leading (seq (word "pub") (opt (seqs [word "(", plus (set (.union .word .blank)), word ")"]))),
    leading (word "async"),
    alts [word "def", seq (word "function") (opt (word "*")), word "fn", word "func"],
    someBlanks, group 1 name]

/-- Either kind of quotation mark. -/
def quotation : Regex.CharSet := .ofChars ['\x22', '\x27']

/-- The start of an import; group 1, 2 or 3 is the name of what is imported. -/
def importShape : Regex :=
  seqs [look .startText, blanks,
    alts [
      seqs [word "from", someBlanks, group 1 modulePath, someBlanks, word "import", look (.wordBoundary false)],
      seqs [word "import", someBlanks, group 2 modulePath],
      seqs [word "import", look (.wordBoundary false)],
      seqs [oneOf ["const", "let", "var"], someBlanks,
        plus (set (.unions [.word, .ofChars ['$', '\x7b', '\x7d', ',', ':'], .blank])),
        word "=", blanks, word "require", blanks, word "(", blanks, set quotation,
        group 3 (plus (set (.compl quotation))), set quotation]]]

/-- An assignment, perhaps with a type; group 1 is the target and group 2 the value. -/
def assignmentShape : Regex :=
  seqs [look .startText, blanks, leading (oneOf ["const", "let", "var", "final", "auto"]),
    group 1 dottedName, blanks,
    opt (seqs [word ":", blanks, rep (set (.compl (.single '='))) 1 none false]),
    blanks, word "=", blanks,
    group 2 (seq (set (.compl (.ofChars ['=', '>']))) (star (set (.compl (.single '\n'))))),
    look .endText]

/-- The start of a call, up to its opening parenthesis; group 1 is what is called. -/
def callShape : Regex := seqs [group 1 dottedName, blanks, word "("]

/-- A name with at least one more name after a dot. -/
def memberShape : Regex := seq name (plus dotName)

def identifierShape : Regex := seqs [look .startText, name, look .endText]

end SourceAudit.Outline
