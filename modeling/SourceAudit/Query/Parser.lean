import SourceAudit.Query.Lexer
import SourceAudit.Query.SyntaxError

/-!
# From tokens to a query

```text
expr     = TAINT '{' list(field) '}' | (AND | OR | NOT) '(' list(expr) ')' | matcher
field    = (SOURCE | SINK) ':' matcher | SANITIZER ':' (matcher | '[' list(matcher) ']')
matcher  = '{' kinds ':' patterns (',' reason ':' string)* ','? '}'
kinds    = identifier ('|' identifier)* | '[' list(identifier) ']'
patterns = pattern | '[' list(pattern) ']'
pattern  = string | identifier | regex
list(x)  = nothing | x (',' x)* ','?
```

A TAINT has exactly one SOURCE and one SINK, a logical expression at least one operand, and logical expressions nest at
most `maxNesting` deep.

`parse` : the query of a token stream, or the first error.
`parseQuery` : the query of a text.

Each step takes the tokens that are left and gives back those it leaves. `separated` is the one loop over lists.
-/

namespace SourceAudit.Query

/-- Why parsing stops: a cause at a token, or the end of the stream. -/
inductive Fault where
  | atToken (token : Token) (cause : SyntaxCause)
  | endOfTokens
  deriving DecidableEq, Repr

/-- A parsing step: from the tokens that are left to a value and the tokens left after it. -/
abbrev Step (α : Type) := List Token → Except Fault (α × List Token)

def unexpected (token : Token) (expectation : Expectation) : Fault :=
  .atToken token (.unexpected expectation token.kind)

def nextIs (kind : TokenKind) : List Token → Bool
  | [] => false
  | t :: _ => t.kind = kind

def expect (kind : TokenKind) (context : String) : List Token → Except Fault (List Token)
  | [] => .error .endOfTokens
  | t :: ts => if t.kind = kind then .ok ts else .error (unexpected t (.token kind context))

/-- Takes items separated by commas up to a closing token, which it leaves; a comma may follow the last item. An item
extends the state `s`. -/
def separated {σ : Type} (close : TokenKind) (item : σ → Step σ) (s : σ) (ts : List Token) :
    Except Fault (σ × List Token) :=
  if nextIs close ts then .ok (s, ts)
  else
    match item s ts with
    | .error e => .error e
    | .ok (s', []) => .ok (s', [])
    | .ok (s', t :: rest) =>
      if t.kind = .comma then
        if rest.length < ts.length then separated close item s' rest else .ok (s', t :: rest)
      else .ok (s', t :: rest)
termination_by ts.length

/-- An item that adds one value at the end of a list. -/
def collecting {α : Type} (item : Step α) (acc : List α) : Step (List α) := fun ts =>
  match item ts with
  | .error e => .error e
  | .ok (a, rest) => .ok (acc ++ [a], rest)

def oneOrList {α : Type} (item : Step α) (context : String) : Step (List α)
  | [] => .error .endOfTokens
  | t :: ts => do
    if t.kind = .leftBracket then
      let (as, rest) ← separated .rightBracket (collecting item) [] ts
      let rest ← expect .rightBracket context rest
      return (as, rest)
    else
      let (a, rest) ← item (t :: ts)
      return ([a], rest)

/-! ## Matchers -/

def takeIdentifier (expectation : Expectation) : Step String
  | [] => .error .endOfTokens
  | t :: ts =>
    match t.kind with
    | .identifier name => .ok (name, ts)
    | _ => .error (unexpected t expectation)

def takePattern : Step PatternSpec
  | [] => .error .endOfTokens
  | t :: ts =>
    match t.kind with
    | .string value => .ok (.literal value, ts)
    | .identifier name => .ok (.literal name, ts)
    | .regex value flags =>
      match flags.toList.find? (· ≠ 'i') with
      | some flag => .error (.atToken t (.unsupportedFlag flag))
      | none => .ok (⟨.regex, value, flags.toList.isEmpty⟩, ts)
    | _ => .error (unexpected t .pattern)

def takePatterns : Step (List PatternSpec) := oneOrList takePattern "to close pattern list"

/-- Takes further node kinds, each after a pipe. -/
def takePipedKinds (kinds : StringSet) : Step StringSet
  | [] => .ok (kinds, [])
  | t :: ts =>
    if t.kind = .pipe then
      match ts with
      | [] => .error .endOfTokens
      | u :: us =>
        match u.kind with
        | .identifier name => takePipedKinds (kinds.insert name) us
        | _ => .error (unexpected u .nodeKindAfterPipe)
    else .ok (kinds, t :: ts)

/-- Takes a node kind of a list and adds it to those before it. -/
def takeListedKind (kinds : StringSet) : Step StringSet := fun ts =>
  match takeIdentifier .nodeKind ts with
  | .error e => .error e
  | .ok (name, rest) => .ok (kinds.insert name, rest)

def takeNodeKinds : Step StringSet
  | [] => .error .endOfTokens
  | t :: ts =>
    if t.kind = .leftBracket then
      match separated .rightBracket takeListedKind .empty ts with
      | .error e => .error e
      | .ok (kinds, rest) =>
        match expect .rightBracket "to close node kind list" rest with
        | .error e => .error e
        | .ok rest => .ok (kinds, rest)
    else
      match takeIdentifier .nodeKind (t :: ts) with
      | .error e => .error e
      | .ok (name, rest) => takePipedKinds (sortedSet [name]) rest

/-- Takes the options at the end of a matcher; the last reason counts. -/
def takeOptions (reason : Option String) : Step (Option String)
  | [] => .ok (reason, [])
  | t :: ts =>
    if t.kind = .comma then
      match ts with
      | [] => .error .endOfTokens
      | key :: ts =>
        if key.kind = .rightBrace then .ok (reason, key :: ts)
        else if key.kind = .identifier "reason" then
          match ts with
          | [] => .error .endOfTokens
          | mark :: ts =>
            if mark.kind = .colon then
              match ts with
              | [] => .error .endOfTokens
              | value :: ts =>
                match value.kind with
                | .string text => takeOptions (some text) ts
                | _ => .error (unexpected value .reasonText)
            else .error (unexpected mark (.token .colon "after `reason`"))
        else .error (unexpected key .reasonOption)
    else .ok (reason, t :: ts)

def takeMatcher : Step (NodeMatcher × Option String) := fun ts => do
  let ts ← expect .leftBrace "to start a node matcher" ts
  let (kinds, ts) ← takeNodeKinds ts
  let ts ← expect .colon "after node kinds" ts
  let (specs, ts) ← takePatterns ts
  let (reason, ts) ← takeOptions none ts
  let ts ← expect .rightBrace "to close node matcher" ts
  return ((⟨kinds, specs⟩, reason), ts)

def takeBareMatcher : Step NodeMatcher := fun ts => do
  let ((m, _), ts) ← takeMatcher ts
  return (m, ts)

/-! ## Expressions -/

/-- The fields of a TAINT read so far. -/
structure TaintFields where
  source : Option NodeMatcher := none
  sink : Option NodeMatcher := none
  sanitizers : List NodeMatcher := []

def takeTaintField (fields : TaintFields) : Step TaintFields
  | [] => .error .endOfTokens
  | t :: ts =>
    match t.kind with
    | .keyword .source => do
      let ts ← expect .colon "after SOURCE" ts
      if fields.source.isSome then throw (.atToken t .duplicateSource)
      let (m, ts) ← takeBareMatcher ts
      return ({ fields with source := some m }, ts)
    | .keyword .sink => do
      let ts ← expect .colon "after SINK" ts
      if fields.sink.isSome then throw (.atToken t .duplicateSink)
      let (m, ts) ← takeBareMatcher ts
      return ({ fields with sink := some m }, ts)
    | .keyword .sanitizer => do
      let ts ← expect .colon "after SANITIZER" ts
      let (ms, ts) ← oneOrList takeBareMatcher "to close sanitizer list" ts
      return ({ fields with sanitizers := fields.sanitizers ++ ms }, ts)
    | _ => .error (unexpected t .taintField)

def takeTaint (keyword : Token) : Step Expr := fun ts => do
  let ts ← expect .leftBrace "after TAINT" ts
  let (fields, ts) ← separated .rightBrace takeTaintField {} ts
  let ts ← expect .rightBrace "to close TAINT" ts
  match fields.source, fields.sink with
  | some source, some sink => return (.taint source sink fields.sanitizers, ts)
  | none, _ => throw (.atToken keyword .missingSource)
  | some _, none => throw (.atToken keyword .missingSink)

def takeLogical (op : LogicalOp) (keyword : Token) (operand : Step Expr) : Step Expr := fun ts => do
  let ts ← expect .leftParen ("after " ++ op.name) ts
  let (operands, ts) ← separated .rightParen (collecting operand) [] ts
  let ts ← expect .rightParen ("to close " ++ op.name) ts
  if operands.isEmpty then throw (.atToken keyword (.noOperand op))
  return (.logical op operands, ts)

def logicalOp? : Keyword → Option LogicalOp
  | .and => some .and
  | .or => some .or
  | .not => some .not
  | _ => none

/-- Takes an expression in which logical expressions nest at most `levels` deep. -/
def takeExpression : (levels : Nat) → Step Expr
  | _, [] => .error .endOfTokens
  | levels, t :: ts =>
    match t.kind with
    | .keyword .taint => takeTaint t ts
    | .keyword word =>
      match logicalOp? word with
      | none => .error (unexpected t .expression)
      | some op =>
        match levels with
        | 0 => .error (.atToken t .tooDeep)
        | levels + 1 => takeLogical op t (takeExpression levels) ts
    | .leftBrace =>
      match takeMatcher (t :: ts) with
      | .error e => .error e
      | .ok ((m, reason), rest) => .ok (.pattern m reason, rest)
    | _ => .error (unexpected t .expression)

/-! ## Queries -/

/-- Gives a fault its position; the end of the stream is reported at its last token. -/
def Fault.locate (tokens : List Token) : Fault → SyntaxError
  | .atToken token cause => ⟨cause, token.position⟩
  | .endOfTokens => ⟨.unexpectedEnd, (tokens.getLast?.map (·.position)).getD .start⟩

def takeQuery (tokens : List Token) : Except Fault Expr :=
  match takeExpression maxNesting tokens with
  | .error e => .error e
  | .ok (_, []) => .error .endOfTokens
  | .ok (e, t :: _) => if t.kind = .eof then .ok e else .error (unexpected t .endOfQuery)

def parse (tokens : List Token) : Except SyntaxError Query :=
  match takeQuery tokens with
  | .error fault => .error (fault.locate tokens)
  | .ok e => .ok { expression := e }

def parseQuery (source : String) : Except SyntaxError Query := parse (tokenize source)

end SourceAudit.Query
