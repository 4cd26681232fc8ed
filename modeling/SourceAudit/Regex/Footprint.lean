import SourceAudit.Regex.Shape
import Std.Data.HashMap

/-!
# The size of the automaton of a pattern

A pattern is usable if the automaton that recognises it takes at most `Footprint.limit` bytes, both when it reads a
text forwards and when it reads it backwards. `Shape.fits` decides that; `Shape.fitTogether` decides it for one
automaton of several patterns.

An automaton is a list of numbered states of 32 bytes each; a state with several byte ranges takes 8 bytes more for
each of them, and a state with several successors takes 4 bytes more for each. `Shape.place` adds the states of a
pattern to an automaton. Most states depend on the shape alone. A set of characters beyond ASCII shares the states
that it needs more than once, as far as a small memory for them reaches; what is shared then depends on the numbers of
the states too.
-/

namespace SourceAudit.Regex

/-- How large an automaton is: its states, and the bytes that they take beyond their fixed size. -/
structure Footprint where
  states : Nat := 0
  extra : Nat := 0
  deriving DecidableEq, Repr

namespace Footprint

/-- The most bytes that an automaton may take. -/
def limit : Nat := 10485760

def bytes (f : Footprint) : Nat := 32 * f.states + f.extra

/-- Adds states, if there is room for them. -/
def grow (f : Footprint) (states extra : Nat) : Option Footprint :=
  let g : Footprint := ⟨f.states + states, f.extra + extra⟩
  if g.bytes ≤ limit then some g else none

theorem grow_of_lt {f : Footprint} {states extra : Nat} (h : limit < f.bytes + (32 * states + extra)) :
    f.grow states extra = none := by
  have hbytes : limit < 32 * (f.states + states) + (f.extra + extra) := by
    rw [bytes] at h
    omega
  exact if_neg (Nat.not_le.mpr hbytes)

theorem bytes_of_grow {f g : Footprint} {states extra : Nat} (h : f.grow states extra = some g) :
    g.bytes = f.bytes + (32 * states + extra) := by
  simp only [grow] at h
  split at h
  · cases h
    simp only [bytes]
    omega
  · cases h

/-- Adds the same part several times. -/
def times (part : Footprint → Option Footprint) : Nat → Footprint → Option Footprint
  | 0, f => some f
  | n + 1, f =>
    match part f with
    | some g => times part n g
    | none => none

end Footprint

/-- Which way an automaton reads a text. -/
inductive Direction where
  | forward
  | backward
  deriving DecidableEq, Repr

/-! ## Sets of characters -/

def hashStep (h : UInt64) (n : Nat) : UInt64 := (h ^^^ n.toUInt64) * 1099511628211

def hashOf (ns : List Nat) : UInt64 := ns.foldl hashStep 14695981039346656037

/-- A memory for states under keys: it has a fixed number of places, and a key drives out what was in its place. -/
structure StateCache where
  places : Nat
  held : Std.HashMap Nat (List Nat × Nat) := {}

namespace StateCache

def place (c : StateCache) (key : List Nat) : Nat := (hashOf key).toNat % c.places

def get? (c : StateCache) (key : List Nat) : Option Nat :=
  match c.held[c.place key]? with
  | some (k, state) => if k == key then some state else none
  | none => none

def put (c : StateCache) (key : List Nat) (state : Nat) : StateCache :=
  { c with held := c.held.insert (c.place key) (key, state) }

end StateCache

/-- A state under construction: its finished byte ranges with their successors, newest first and each as three
numbers, and the byte range whose successor is still under construction. -/
structure OpenState where
  edges : List (List Nat) := []
  last : Option (Nat × Nat) := none

namespace OpenState

/-- Gives the last byte range its successor. -/
def freeze (s : OpenState) (successor : Nat) : OpenState :=
  match s.last with
  | some (first, last) => ⟨[first, last, successor] :: s.edges, none⟩
  | none => s

end OpenState

/-- The automaton of a set while its sequences of byte ranges come in ascending order: the part that is placed, and the
states under construction from the latest back to the first. -/
structure SetBuilder where
  placed : Footprint
  cache : StateCache := { places := 10000 }
  opened : List OpenState := [{}]

namespace SetBuilder

/-- Places a state, unless the same state is remembered. -/
def close (b : SetBuilder) (s : OpenState) : Option (Nat × SetBuilder) :=
  let key := s.edges.reverse.flatten
  match b.cache.get? key with
  | some state => some (state, b)
  | none => do
    let placed ← b.placed.grow 1 (8 * s.edges.length)
    return (b.placed.states, { b with placed, cache := b.cache.put key b.placed.states })

/-- Places the latest `n` states under construction; `successor` is the state after them. -/
def closeLatest (b : SetBuilder) (successor : Nat) : Nat → Option SetBuilder
  | 0 =>
    match b.opened with
    | top :: rest => some { b with opened := top.freeze successor :: rest }
    | [] => some b
  | n + 1 =>
    match b.opened with
    | top :: rest => do
      let (state, b) ← { b with opened := rest }.close (top.freeze successor)
      closeLatest b state n
    | [] => some b

/-- The number of byte ranges that a sequence shares with the states under construction, first to latest. -/
def shared : ByteRanges → List OpenState → Nat
  | r :: rs, s :: ss => if s.last == some r then shared rs ss + 1 else 0
  | _, _ => 0

/-- Adds a sequence of byte ranges; `target` is the state after its last byte. -/
def add (b : SetBuilder) (target : Nat) (sequence : ByteRanges) : Option SetBuilder := do
  let common := shared sequence b.opened.reverse
  let b ← b.closeLatest target (b.opened.length - common - 1)
  match sequence.drop common, b.opened with
  | r :: rs, top :: rest =>
    return { b with opened := (rs.map fun r => { last := some r }).reverse ++ { top with last := some r } :: rest }
  | _, _ => return b

def finish (b : SetBuilder) (target : Nat) : Option Footprint := do
  let b ← b.closeLatest target (b.opened.length - 1)
  match b.opened with
  | root :: _ => return (← b.close root).2.placed
  | [] => return b.placed

end SetBuilder

def setSequences (ranges : CodeRanges) : List ByteRanges := ranges.flatMap fun r => byteRanges r.1 r.2

/-- Adds the states of a set that is read forwards. -/
def placeForward (ranges : CodeRanges) (f : Footprint) : Option Footprint := do
  let target := f.states
  let start : SetBuilder := { placed := ← f.grow 1 0 }
  let b ← (setSequences ranges).foldlM (·.add target ·) start
  b.finish target

/-- Adds the states of a sequence that is read backwards, from the state `source` on. -/
def placeBytes (source : Nat) : ByteRanges → Footprint × StateCache → Option (Footprint × StateCache)
  | [], (f, cache) => do return (← f.grow 0 4, cache)
  | r :: rs, (f, cache) => do
    let key := [source, r.1, r.2]
    match cache.get? key with
    | some state => placeBytes state rs (f, cache)
    | none => placeBytes f.states rs (← f.grow 1 0, cache.put key f.states)

/-- Adds the states of a set that is read backwards. -/
def placeBackward (ranges : CodeRanges) (f : Footprint) : Option Footprint := do
  let target := f.states + 1
  let g ← f.grow 2 0
  return (← (setSequences ranges).foldlM (fun x s => placeBytes target s x) (g, { places := 1000 })).1

def placeSet (d : Direction) (ranges : CodeRanges) (f : Footprint) : Option Footprint :=
  if Shape.isAscii ranges then f.grow 2 (8 * ranges.length)
  else
    match d with
    | .forward => placeForward ranges f
    | .backward => placeBackward ranges f

/-! ## Alternatives that are all literals -/

/-- The literals of some alternatives, merged from their starts. A state lists its edges in the order of preference of
the literals: those before a `stop` belong to literals preferred to one that ends in the state, those after it to
others. -/
inductive LiteralTree where
  | leaf
  | edge (byte : Nat) (child rest : LiteralTree)
  | stop (rest : LiteralTree)

namespace LiteralTree

def isLeaf : LiteralTree → Bool
  | leaf => true
  | edge _ _ _ => false
  | stop rest => rest.isLeaf

def hasStop : LiteralTree → Bool
  | leaf => false
  | edge _ _ rest => rest.hasStop
  | stop _ => true

/-- Adds a stop after all edges. -/
def addStop : LiteralTree → LiteralTree
  | leaf => stop leaf
  | edge b child rest => edge b child rest.addStop
  | stop rest => stop rest.addStop

def ended (t : LiteralTree) : LiteralTree := if t.isLeaf && t.hasStop then t else t.addStop

/-- The edges after the last stop lead on from a state: changes the child under a byte, or adds one. -/
def update (byte : Nat) (change : LiteralTree → LiteralTree) : LiteralTree → LiteralTree
  | leaf => edge byte (change leaf) leaf
  | stop rest => stop (rest.update byte change)
  | edge b child rest =>
    if b = byte && !rest.hasStop then edge b (change child) rest else edge b child (rest.update byte change)

def insert : List Nat → LiteralTree → LiteralTree
  | [], t => t.ended
  | b :: bs, t => t.update b (insert bs)

/-- The size of the state of `n` edges between two stops, and of the successor that leads to it. -/
def edgesSize (n : Nat) : Footprint :=
  if n = 0 then ⟨0, 0⟩ else if n = 1 then ⟨1, 4⟩ else ⟨1, 8 * n + 4⟩

def addSize (a b : Footprint) : Footprint := ⟨a.states + b.states, a.extra + b.extra⟩

/-- The size of the states of a tree; `n` edges precede it since the last stop. -/
def sizeAfter (n : Nat) : LiteralTree → Footprint
  | leaf => addSize (edgesSize n) ⟨1, 0⟩
  | stop rest => addSize (edgesSize n) (addSize ⟨0, 4⟩ (rest.sizeAfter 0))
  | edge _ child rest =>
    if child.isLeaf then rest.sizeAfter (n + 1) else addSize (child.sizeAfter 0) (rest.sizeAfter (n + 1))

end LiteralTree

/-- Adds the states of alternatives that are all literals. -/
def placeLiterals (d : Direction) (literals : List (List Nat)) (f : Footprint) : Option Footprint :=
  let ordered := match d with
    | .forward => literals
    | .backward => literals.map List.reverse
  let tree := ordered.foldl (fun t bytes => LiteralTree.insert bytes t) LiteralTree.leaf
  let size := tree.sizeAfter 0
  f.grow (size.states + 1) size.extra

/-! ## Patterns -/

namespace Shape

def literalBytes? : Shape → Option (List Nat)
  | literal bytes => some bytes
  | _ => none

/-- Adds the states of a repetition, given what adds those of one round; `vacuous` if a round may take nothing. -/
def placeRep (round : Footprint → Option Footprint) (vacuous : Bool) :
    (min : Nat) → (max : Option Nat) → Footprint → Option Footprint
  | 0, none, f => do
    let f ← round f
    if vacuous then f.grow 3 16 else f.grow 1 8
  | min + 1, none, f => do (← Footprint.times round (min + 1) f).grow 1 8
  | min, some max, f => do
    let f ← if min = 0 then f.grow 1 0 else Footprint.times round min f
    if min = max then return f
    Footprint.times (fun f => do round (← f.grow 1 8)) (max - min) (← f.grow 1 0)

mutual

/-- Adds the states of a pattern. -/
def place (d : Direction) : Shape → Footprint → Option Footprint
  | empty, f | look _, f => f.grow 1 0
  | literal bytes, f => f.grow bytes.length 0
  | set ranges, f => placeSet d ranges f
  | byteSet ranges, f => f.grow 2 (8 * ranges.length)
  | rep a 0 none _, f =>
    if a.minLength.any (0 < ·) then do place d a (← f.grow 1 8) else placeRep (place d a) true 0 none f
  | rep a 0 (some 1) _, f => do (← place d a (← f.grow 1 8)).grow 1 0
  | rep a min max _, f => placeRep (place d a) false min max f
  | group _ a, f =>
    match d with
    | .forward => do (← place d a (← f.grow 1 0)).grow 1 0
    | .backward => place d a f
  | seq as, f =>
    match d with
    | .forward => placeAll d as f
    | .backward => placeAllFromEnd d as f
  | alt as, f =>
    match as.mapM literalBytes? with
    | some literals => placeLiterals d literals f
    | none => placeBranches d as f

/-- Adds the states of several patterns. -/
def placeAll (d : Direction) : List Shape → Footprint → Option Footprint
  | [], f => some f
  | a :: as, f => do placeAll d as (← place d a f)

/-- Adds the states of several patterns, the last pattern first. -/
def placeAllFromEnd (d : Direction) : List Shape → Footprint → Option Footprint
  | [], f => some f
  | a :: as, f => do place d a (← placeAllFromEnd d as f)

/-- Adds the states of alternatives: the states where they part and meet stand after the second. -/
def placeBranches (d : Direction) : List Shape → Footprint → Option Footprint
  | a :: b :: as, f => do placeAll d as (← (← place d b (← place d a f)).grow 2 (4 * (as.length + 2)))
  | _, f => some f

end

/-- Whether every match is known to be tied to where reading starts. -/
def isTied : Direction → Shape → Bool
  | .forward, a => a.startsWith .startText
  | .backward, a => a.endsWith .endText

/-- Adds the states of a whole pattern: forwards those that note where a match starts and ends, and the one that ends
it. -/
def placeWhole (d : Direction) (f : Footprint) (a : Shape) : Option Footprint := do
  match d with
  | .forward => (← place d a (← f.grow 1 0)).grow 2 0
  | .backward => (← place d a f).grow 1 0

/-- The automaton of whole patterns. A search that is not tied to the start of what it reads begins with a loop. The
states where several patterns part and meet stand after the second. -/
def footprint (d : Direction) (as : List Shape) : Option Footprint := do
  let f : Footprint := if as.all (isTied d) then ⟨1, 0⟩ else ⟨3, 16⟩
  match as with
  | [] => f.grow 1 0
  | [a] => placeWhole d f a
  | a :: b :: as => as.foldlM (placeWhole d) (← (← placeWhole d (← placeWhole d f a) b).grow 2 (4 * (as.length + 2)))

/-! ## A quick bound -/

mutual

/-- At least as many bytes as the states of a pattern take. -/
def bound : Shape → Nat
  | empty | look _ => 32
  | literal bytes => 32 * bytes.length
  | set ranges => ranges.foldl (fun n r => n + 160 * byteRangesBound r.1 r.2) 128
  | byteSet ranges => 8 * ranges.length + 64
  | rep a min max _ => ((max.getD (min + 1)) + 1) * (a.bound + 40) + 128
  | group _ a => a.bound + 64
  | seq as => boundSum as + 32
  | alt as => 3 * boundSum as + 4 * as.length + 128

def boundSum : List Shape → Nat
  | [] => 0
  | a :: as => a.bound + boundSum as

end

/-- Whether the automata of some patterns keep to the limit. -/
def fitTogether (as : List Shape) : Bool :=
  boundSum as + 128 * as.length + 512 ≤ Footprint.limit ||
    ((footprint .forward as).isSome && (footprint .backward as).isSome)

/-- Whether the automata of a pattern keep to the limit. -/
def fits (a : Shape) : Bool := fitTogether [a]

end Shape

end SourceAudit.Regex
