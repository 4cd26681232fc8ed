import SourceAudit.Binary64.Reader
import SourceAudit.Document.Outline
import SourceAudit.Yaml.Token

/-!
# Nodes of YAML

A `Node` is a part of a YAML document, and a `Source` is a whole document with the nodes that it refers to: a node may
be given a name and stand for it wherever the name is used, even inside itself.

`Source.expand?` : the document as far as an outline asks for it, with the nodes that references stand for in their
place. Each reference that is followed counts, and a document that needs more than a hundred for each of its parts is
refused.
-/

namespace SourceAudit.Yaml

/-- A part of a document. -/
inductive Node where
  | scalar (text : String) (style : Style) (tag : Option TagText)
  | sequence (items : List Node)
  | mapping (entries : List (Node × Node))
  /-- A reference to the node with a number. -/
  | reference (number : Nat)
  deriving Inhabited

/-- A document: its nodes, the nodes that references stand for, and the number of its parts. A scalar and a reference
are one part, and other nodes have two besides those of their items. -/
structure Source where
  root : Node
  targets : List (Nat × Node) := []
  parts : Nat

/-! ## Scalars -/

def standardTag (name : String) : TagText := ("tag:yaml.org,2002:" ++ name).toList.map Char.toNat

/-- The truth value that a text stands for. -/
def textBool? (text : String) : Option Bool :=
  if ["true", "True", "TRUE"].contains text then some true
  else if ["false", "False", "FALSE"].contains text then some false
  else none

def textNumber? (text : String) : Option Binary64 :=
  let unsigned? : Option (List Char) := match text.toList with
    | '+' :: cs => if cs.head? == some '+' || cs.head? == some '-' then none else some cs
    | cs => some cs
  unsigned?.bind fun cs =>
    let s := String.ofList cs
    if [".inf", ".Inf", ".INF"].contains s then some (.infinite false)
    else if ["-.inf", "-.Inf", "-.INF"].contains text then some (.infinite true)
    else if [".nan", ".NaN", ".NAN"].contains text then some .nan
    else
      match Binary64.parse? cs with
      | some (.finite negative m e) => some (.finite negative m e)
      | _ => none

def isNullText (text : String) : Bool := ["~", "null", "Null", "NULL"].contains text

/-- The name that a tag gives to a scalar: what follows its `!`, or the mark itself. -/
def tagName? (tag : TagText) : Option String :=
  match tag with
  | 0x21 :: rest =>
    let bytes := if rest.isEmpty then tag else rest
    String.fromUTF8? ⟨(bytes.map Nat.toUInt8).toArray⟩
  | _ => none

/-- What a scalar can be read as. A plain scalar can be read as a truth value or a number, and so can a literal block
whose tag says so. A tag that starts with `!` is itself the name of the value, which then has to be left out. -/
def scalarDocument (text : String) (style : Style) (tag : Option TagText) : Document :=
  let isPlain := style == .plain
  let reads (name : String) := isPlain || (style == .literal && tag == some (standardTag name))
  let isNull := isPlain && (text.isEmpty || isNullText text)
  .scalar {
    string := some text
    name := match tag.bind tagName? with
      | some name => if isNull then some name else none
      | none => some text
    bool := if reads "bool" then textBool? text else none
    number := if reads "float" then textNumber? text else none
    nullity :=
      if !isPlain then .value
      else
        match tag with
        | none => if isNull then .null else .value
        | some t => if t != standardTag "null" then .value else if isNullText text then .null else .contradictory
    isBlank := isPlain && text.isEmpty }

def emptyScalar : Node := .scalar "" .plain none

/-! ## Documents -/

namespace Source

/-- Follows references while there are any left to follow. -/
abbrev Expansion := StateT Nat (Except Error)

def resolve (s : Source) (n : Node) : Expansion Node := do
  match n with
  | .reference number =>
    let followed ← modifyGet fun followed => (followed + 1, followed + 1)
    if s.parts * 100 < followed then throw .tooManyReferences
    return (s.targets.lookup number).getD emptyScalar
  | n => return n

def keyText? : Node → Option String
  | .scalar text _ _ => some text
  | _ => none

mutual

/-- The document that a node stands for, as far as an outline asks for it. Of a table only the known entries are kept.
If a key is no text, the table cannot be read, like any other node that has not the form that is asked for. -/
def expand (s : Source) (o : Document.Outline) (n : Node) : Expansion Document := do
  match ← s.resolve n, o with
  | .scalar text style tag, _ => return scalarDocument text style tag
  | .sequence items, .list item => return .list .never (← items.mapM (expand s item))
  | .mapping entries, .record fields =>
    let keyed ← entries.mapM fun (key, value) => do return (keyText? (← s.resolve key), value)
    match keyed.mapM fun (key?, value) => key?.map fun key => (key, value) with
    | some named => return .table .never (← named.flatMapM fun (key, value) => expandField s fields key value)
    | none => return .scalar {}
  | _, _ => return .scalar {}

/-- The entry of a table with a key, if it is known. -/
def expandField (s : Source) (fields : Document.Outline.Fields) (key : String)
    (n : Node) : Expansion (List (String × Document)) := do
  match fields with
  | .nil => return []
  | .cons name o rest => if name = key then return [(key, ← expand s o n)] else expandField s rest key n

end

def document (s : Source) (o : Document.Outline) : Except Error Document := do
  return (← (s.expand o s.root).run 0).1

end Source

end SourceAudit.Yaml
