import SourceAudit.Regex.Escape

/-!
# Sets in brackets

`readBracket` reads a set such as `[a-z_[:digit:]&&[^b]]`. Items stand for their union; `&&`, `--` and `~~` are
intersection, difference and symmetric difference, which bind alike, from the left, and less than union.
-/

namespace SourceAudit.Regex

/-- A set with the depth of its nesting. -/
structure SetItem where
  chars : CharSet
  depth : Nat

namespace SetItem

def union : List SetItem → SetItem
  | [] => ⟨.none, 0⟩
  | [a] => a
  | items => ⟨.unions (items.reverse.map (·.chars)), (items.map (·.depth)).foldl max 0 + 1⟩

end SetItem

/-- An operation on two sets. -/
inductive SetOp where
  | inter
  | diff
  | symmDiff

namespace SetOp

/-- Applies an operation. Where case is ignored, both sets are folded first. -/
def apply (flags : Flags) (op : SetOp) (a b : SetItem) : SetItem :=
  let x := flags.fold a.chars
  let y := flags.fold b.chars
  let result := match op with
    | inter => CharSet.inter x y
    | diff => CharSet.diff x y
    | symmDiff => CharSet.symmDiff x y
  ⟨result, max a.depth b.depth + 1⟩

end SetOp

/-- An open bracket: the items of the set around it, whether it is negated, and the left operand of an operation that
waits for its right one. -/
structure OpenBracket where
  outer : List SetItem
  negated : Bool
  pending : Option (SetOp × SetItem) := none

namespace OpenBracket

/-- The set of the items so far, with the waiting operation applied. -/
def operand (flags : Flags) (b : OpenBracket) (items : List SetItem) : SetItem :=
  let item := SetItem.union items
  match b.pending with
  | some (op, left) => op.apply flags left item
  | none => item

def close (flags : Flags) (b : OpenBracket) (items : List SetItem) : Except Error SetItem := do
  let item := b.operand flags items
  let s := flags.fold item.chars
  if b.negated && !flags.unicode then .error .notText
  return ⟨if b.negated then s.negated else s, item.depth + 1⟩

end OpenBracket

/-- Reads the opening of a set: `[`, perhaps `^`, any number of literal hyphens and then perhaps a literal `]`. -/
def readOpening (flags : Flags) (outer : List SetItem) (cs : List Char) :
    Except Error (OpenBracket × List SetItem × List Char) := do
  let (negated, cs) := match flags.skip cs with
    | '^' :: cs => (true, flags.skip cs)
    | cs => (false, cs)
  let (items, cs) := hyphens [] cs.length cs
  match cs with
  | [] => .error .classUnclosed
  | ']' :: rest =>
    if items.isEmpty then
      match flags.skip rest with
      | [] => .error .classUnclosed
      | rest => return (⟨outer, negated, none⟩, [⟨.single ']', 0⟩], rest)
    else return (⟨outer, negated, none⟩, items, cs)
  | _ => return (⟨outer, negated, none⟩, items, cs)
where
  hyphens (items : List SetItem) : Nat → List Char → List SetItem × List Char
    | n + 1, '-' :: cs => hyphens (⟨.single '-', 0⟩ :: items) n (flags.skip cs)
    | _, cs => (items, cs)

/-- The set with a name such as `alpha`. -/
def namedSet? : String → Option CharSet
  | "alnum" => some (.union asciiDigits asciiLetters)
  | "alpha" => some asciiLetters
  | "ascii" => some (.range 0 0x7F)
  | "blank" => some (.ofChars ['\t', ' '])
  | "cntrl" => some (.union (.range 0 0x1F) (.range 0x7F 0x7F))
  | "digit" => some asciiDigits
  | "graph" => some (.span '!' '~')
  | "lower" => some (.span 'a' 'z')
  | "print" => some (.span ' ' '~')
  | "punct" => some (.unions [.span '!' '/', .span ':' '@', .span '[' '\x60', .span '\x7b' '~'])
  | "space" => some asciiBlank
  | "upper" => some (.span 'A' 'Z')
  | "word" => some asciiWord
  | "xdigit" => some (.unions [asciiDigits, .span 'A' 'F', .span 'a' 'f'])
  | _ => none

/-- Reads a named set such as `[:alpha:]` or `[:^alpha:]`, without its first bracket, if there is one. -/
def readNamedSet? (flags : Flags) : List Char → Option (Except Error SetItem × List Char)
  | ':' :: cs =>
    let (negated, cs) := match cs with
      | '^' :: cs => (true, cs)
      | cs => (false, cs)
    match Text.cutAt? [':'] cs with
    | some (name, ']' :: rest) =>
      (namedSet? (String.ofList name)).map fun s =>
        let s := flags.fold s
        if negated && !flags.unicode then (.error .notText, rest)
        else (.ok ⟨if negated then s.negated else s, 0⟩, rest)
    | _ => none
  | _ => none

def readSetAtom (flags : Flags) : List Char → Except Error (Atom × List Char)
  | [] => .error .classUnclosed
  | '\\' :: cs => readEscape flags cs
  | c :: cs => .ok (.char c false, cs)

def itemChar (flags : Flags) (c : Char) (byte : Bool) : Except Error Char :=
  if flags.unicode || c.toNat < 0x80 then .ok c
  else if byte then .error .notText
  else .error .needsUnicode

def rangeEnd (flags : Flags) : Atom → Except Error Char
  | .char c byte => itemChar flags c byte
  | _ => .error .classRangeEnds

def readSetItem (flags : Flags) (cs : List Char) : Except Error (SetItem × List Char) := do
  let (first, cs) ← readSetAtom flags cs
  let cs := flags.skip cs
  let isRange := match cs with
    | '-' :: rest =>
      match flags.skip rest with
      | ']' :: _ | '-' :: _ => false
      | _ => true
    | _ => false
  if cs.isEmpty then .error .classUnclosed
  if isRange then
    let (last, rest) ← readSetAtom flags (flags.skip (cs.drop 1))
    let a ← rangeEnd flags first
    let b ← rangeEnd flags last
    if b < a then .error .classRangeReversed
    return (⟨.span a b, 0⟩, rest)
  else
    match first with
    | .char c byte => return (⟨.single (← itemChar flags c byte), 0⟩, cs)
    | .chars s => return (⟨s, 0⟩, cs)
    | _ => .error .classItem

/-- Reads the rest of a set: the open brackets, innermost first, and the items of the innermost, newest first. -/
def readItems (flags : Flags) (fuel : Nat) (bracket : OpenBracket) (outer : List OpenBracket) (items : List SetItem)
    (cs : List Char) : Except Error (SetItem × List Char) :=
  match fuel with
  | 0 => .error .classUnclosed
  | fuel + 1 => do
    match flags.skip cs with
    | [] => .error .classUnclosed
    | '[' :: cs =>
      match readNamedSet? flags cs with
      | some (item, rest) => readItems flags fuel bracket outer ((← item) :: items) rest
      | none =>
        let (inner, innerItems, rest) ← readOpening flags items cs
        readItems flags fuel inner (bracket :: outer) innerItems rest
    | ']' :: cs =>
      let item ← bracket.close flags items
      match outer with
      | [] => return (item, cs)
      | parent :: outer => readItems flags fuel parent outer (item :: bracket.outer) cs
    | '&' :: '&' :: cs =>
      readItems flags fuel { bracket with pending := some (.inter, bracket.operand flags items) } outer [] cs
    | '-' :: '-' :: cs =>
      readItems flags fuel { bracket with pending := some (.diff, bracket.operand flags items) } outer [] cs
    | '~' :: '~' :: cs =>
      readItems flags fuel { bracket with pending := some (.symmDiff, bracket.operand flags items) } outer [] cs
    | cs =>
      let (item, rest) ← readSetItem flags cs
      readItems flags fuel bracket outer (item :: items) rest

def readBracket (flags : Flags) (cs : List Char) : Except Error (SetItem × List Char) := do
  let (bracket, items, rest) ← readOpening flags [] cs
  readItems flags (rest.length + 1) bracket [] items rest

end SourceAudit.Regex
