import SourceAudit.Yaml.Lexer
import SourceAudit.Yaml.Node

/-!
# YAML documents

`Yaml.parse` reads the one document of a text.

A name that is given to a node gets a number: the number of different names so far. A name that is given again therefore
gets a number that the next new name gets too, and a reference stands for the node that got its number last.
-/

namespace SourceAudit.Yaml

/-- How far a document has been read. -/
structure Progress where
  rest : List Token
  /-- What the handles of tags mean. -/
  handles : List (TagText × TagText) := []
  /-- The numbers of names. -/
  numbers : List (String × Nat) := []
  /-- For each number, which of the nodes with a name got it last. -/
  owners : List (Nat × Nat) := []
  /-- How many nodes have a name. -/
  named : Nat := 0
  /-- The nodes with a name that have been read. -/
  nodes : List (Nat × Node) := []
  /-- The number of parts so far. -/
  parts : Nat := 0

abbrev Reading := StateT Progress (Except Error)

namespace Reading

def tokens : Reading (List Token) := do return (← get).rest

def setTokens (ts : List Token) : Reading Unit := modify fun p => { p with rest := ts }

def count (n : Nat) : Reading Unit := modify fun p => { p with parts := p.parts + n }

def leftOut : Reading Node := do
  count 1
  return emptyScalar

/-- Gives a name to the node that starts here; the result tells the nodes with a name apart. -/
def giveName (name : String) : Reading Nat := do
  let p ← get
  let number := p.numbers.length
  set { p with
    numbers := (name, number) :: p.numbers.filter (·.1 != name)
    owners := (number, p.named) :: p.owners
    named := p.named + 1 }
  return p.named

def keep (owner : Nat) (node : Node) : Reading Unit :=
  modify fun p => { p with nodes := (owner, node) :: p.nodes }

def fullTag (handle suffix : TagText) : Reading TagText := do
  if handle.isEmpty then return suffix
  match (← get).handles.lookup handle with
  | some meaning => return meaning ++ suffix
  | none => throw .unknownTagHandle

def readAnchor? : Reading (Option String) := do
  match ← tokens with
  | .anchor name :: ts =>
    setTokens ts
    return some name
  | _ => return none

def readTag? : Reading (Option (TagText × TagText)) := do
  match ← tokens with
  | .tag handle suffix :: ts =>
    setTokens ts
    return some (handle, suffix)
  | _ => return none

/-- Reads the name and the tag before a node, in either order. -/
def readProperties : Reading (Option String × Option TagText) := do
  let early ← readAnchor?
  let written ← readTag?
  let anchor ← if early.isNone && written.isSome then readAnchor? else pure early
  match written with
  | some (handle, suffix) => return (anchor, some (← fullTag handle suffix))
  | none => return (anchor, none)

/-- Whether the next token starts or ends a part of a block mapping. -/
def endsMappingPart : List Token → Bool
  | .key :: _ | .value :: _ | .blockEnd :: _ => true
  | _ => false

mutual

/-- Reads a node. Blocks are allowed if `block`, and a sequence that opens no block if `indentless`. -/
def node (fuel : Nat) (block indentless : Bool) : Reading Node := do
  match fuel with
  | 0 => throw .tooDeep
  | fuel + 1 =>
    match ← tokens with
    | .alias name :: ts =>
      setTokens ts
      count 1
      match (← get).numbers.lookup name with
      | some number => return .reference number
      | none => throw .unknownAnchor
    | _ =>
      let (anchor, tag) ← readProperties
      match anchor with
      | some name =>
        let owner ← giveName name
        let n ← content fuel block indentless true tag
        keep owner n
        return n
      | none => content fuel block indentless tag.isSome tag

/-- Reads a node without its name and tag; nothing has to follow those if they are `present`. -/
def content (fuel : Nat) (block indentless present : Bool) (tag : Option TagText) : Reading Node := do
  match fuel with
  | 0 => throw .tooDeep
  | fuel + 1 =>
    let nothing : Reading Node := do
      if !present then throw .noNode
      count 1
      return .scalar "" .plain tag
    match ← tokens with
    | .scalar text style :: ts =>
      setTokens ts
      count 1
      return .scalar text style tag
    | .flowSequenceStart :: ts =>
      setTokens ts
      count 2
      return .sequence (← flowItems fuel true)
    | .flowMappingStart :: ts =>
      setTokens ts
      count 2
      return .mapping (← flowEntries fuel true)
    | .blockEntry :: _ =>
      if !indentless then nothing
      else
        count 2
        return .sequence (← indentlessItems fuel)
    | .blockSequenceStart :: ts =>
      if !block then nothing
      else
        setTokens ts
        count 2
        return .sequence (← blockItems fuel)
    | .blockMappingStart :: ts =>
      if !block then nothing
      else
        setTokens ts
        count 2
        return .mapping (← blockEntries fuel)
    | _ => nothing

def blockItems (fuel : Nat) : Reading (List Node) := do
  match fuel with
  | 0 => throw .tooDeep
  | fuel + 1 =>
    match ← tokens with
    | .blockEnd :: ts =>
      setTokens ts
      return []
    | .blockEntry :: ts =>
      setTokens ts
      let item ← match ts with
        | .blockEntry :: _ | .blockEnd :: _ => leftOut
        | _ => node fuel true false
      return item :: (← blockItems fuel)
    | _ => throw .noEntry

/-- Reads the items of a sequence that opens no block. -/
def indentlessItems (fuel : Nat) : Reading (List Node) := do
  match fuel with
  | 0 => throw .tooDeep
  | fuel + 1 =>
    match ← tokens with
    | .blockEntry :: ts =>
      setTokens ts
      let item ← if endsMappingPart ts || ts.head? == some .blockEntry then leftOut else node fuel true false
      return item :: (← indentlessItems fuel)
    | _ => return []

/-- Reads a key or a value of a block mapping, which may be left out. -/
def mappingPart (fuel : Nat) : Reading Node := do
  match fuel with
  | 0 => throw .tooDeep
  | fuel + 1 => if endsMappingPart (← tokens) then leftOut else node fuel true true

/-- Reads the value after a key of a block mapping. -/
def mappingValue (fuel : Nat) : Reading Node := do
  match fuel with
  | 0 => throw .tooDeep
  | fuel + 1 =>
    match ← tokens with
    | .value :: ts =>
      setTokens ts
      mappingPart fuel
    | _ => leftOut

def blockEntries (fuel : Nat) : Reading (List (Node × Node)) := do
  match fuel with
  | 0 => throw .tooDeep
  | fuel + 1 =>
    match ← tokens with
    | .blockEnd :: ts =>
      setTokens ts
      return []
    | .key :: ts =>
      setTokens ts
      let key ← mappingPart fuel
      let value ← mappingValue fuel
      return (key, value) :: (← blockEntries fuel)
    | _ => throw .noKey

/-- Reads the value after a key in brackets that `closing` ends. -/
def flowValue (fuel : Nat) (closing : Token) : Reading Node := do
  match fuel with
  | 0 => throw .tooDeep
  | fuel + 1 =>
    match ← tokens with
    | .value :: ts =>
      setTokens ts
      if ts.head? == some .flowEntry || ts.head? == some closing then leftOut else node fuel false false
    | _ => leftOut

/-- Reads an entry that stands alone in a sequence, after the mark of its key. Where the key is left out, the token in
its place is passed over, whatever it is. -/
def flowPair (fuel : Nat) : Reading (Node × Node) := do
  match fuel with
  | 0 => throw .tooDeep
  | fuel + 1 =>
    match ← tokens with
    | .value :: ts | .flowEntry :: ts | .flowSequenceEnd :: ts =>
      setTokens ts
      let key ← leftOut
      return (key, ← flowValue fuel .flowSequenceEnd)
    | _ =>
      let key ← node fuel false false
      return (key, ← flowValue fuel .flowSequenceEnd)

/-- Moves to the next item in brackets that `closing` ends: over the comma before it, unless it is the `first`. -/
def toFlowItem (closing : Token) (first : Bool) : Reading Unit := do
  match ← tokens with
  | .flowEntry :: ts => if !first then setTokens ts
  | t :: _ => if !first && t != closing then throw .noComma
  | [] => if !first then throw .noComma

/-- Reads the items up to a closing bracket; `first` before the first of them. -/
def flowItems (fuel : Nat) (first : Bool) : Reading (List Node) := do
  match fuel with
  | 0 => throw .tooDeep
  | fuel + 1 =>
    toFlowItem .flowSequenceEnd first
    match ← tokens with
    | .flowSequenceEnd :: ts =>
      setTokens ts
      return []
    | .key :: ts =>
      setTokens ts
      count 2
      let pair ← flowPair fuel
      return .mapping [pair] :: (← flowItems fuel false)
    | _ =>
      let item ← node fuel false false
      return item :: (← flowItems fuel false)

/-- Reads the entries up to a closing brace; `first` before the first of them. -/
def flowEntries (fuel : Nat) (first : Bool) : Reading (List (Node × Node)) := do
  match fuel with
  | 0 => throw .tooDeep
  | fuel + 1 =>
    toFlowItem .flowMappingEnd first
    match ← tokens with
    | .flowMappingEnd :: ts =>
      setTokens ts
      return []
    | .key :: ts =>
      setTokens ts
      let key ← match ts with
        | .value :: _ | .flowEntry :: _ | .flowMappingEnd :: _ => leftOut
        | _ => node fuel false false
      let value ← flowValue fuel .flowMappingEnd
      return (key, value) :: (← flowEntries fuel false)
    | _ =>
      let key ← node fuel false false
      let value ← leftOut
      return (key, value) :: (← flowEntries fuel false)

end

/-! ## Documents -/

/-- What the handles of tags mean if nothing else is said. -/
def standardHandles : List (TagText × TagText) :=
  [(bytesOf ['!'], bytesOf ['!']), (bytesOf ['!', '!'], standardTag "")]

/-- Reads directives; `versioned` if there was one about the version. -/
def directives (versioned : Bool) : List Token → Reading (List Token)
  | .versionDirective major minor :: ts => do
    if versioned then throw .repeatedDirective
    if major ≠ 1 || (minor ≠ 1 && minor ≠ 2) then throw .badVersion
    directives true ts
  | .tagDirective handle meaning :: ts => do
    let p ← get
    if (p.handles.lookup handle).isSome then throw .repeatedDirective
    set { p with handles := p.handles ++ [(handle, meaning)] }
    directives versioned ts
  | ts => return ts

def endsDocument : List Token → Bool
  | [] | .versionDirective _ _ :: _ | .tagDirective _ _ :: _ | .documentStart :: _ | .documentEnd :: _ => true
  | _ => false

/-- Reads the start of a document: directives and `---`, or nothing. The result tells whether the document may be
empty. -/
def documentStart : Reading Bool := do
  let ts ← tokens
  let rest ← directives false ts
  modify fun p => { p with handles := p.handles ++ standardHandles }
  match rest with
  | .documentStart :: rest =>
    setTokens rest
    return true
  | _ => if rest.length = ts.length then return false else throw .noDocumentStart

def document : Reading Node := do
  let mayBeEmpty ← documentStart
  let ts ← tokens
  if ts.isEmpty || (mayBeEmpty && endsDocument ts) then leftOut else node (4 * ts.length + 8) true false

end Reading

def parse (text : String) : Except Error Source := do
  let (root, p) ← Reading.document.run { rest := ← tokenize text.toList }
  match p.rest.dropWhile (· == .documentEnd) with
  | [] =>
    let targets := p.owners.filterMap fun (number, owner) => (p.nodes.lookup owner).map fun n => (number, n)
    return { root, targets, parts := p.parts }
  | .documentStart :: _ | .versionDirective _ _ :: _ | .tagDirective _ _ :: _ => .error .severalDocuments
  | _ => .error .noDocumentStart

end SourceAudit.Yaml
