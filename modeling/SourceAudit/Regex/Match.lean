import SourceAudit.Regex.Basic

/-!
# Matching

A match is found by moving through the text once for each start. At every position there is a list of threads, in order
of preference; a thread is the rest of the pattern that still has to match and the positions remembered so far. Equal
rests are kept once, so the work for one start is bounded by the length of the text times the size of the pattern.

`advance` : what a pattern can do at a position: stop there, or take the next character.
`matchAt?` : the preferred match that starts at a position.
`find?` : the leftmost match, the preferred one of those with the same start.
`findAll` : the matches one after the other.

Positions are byte offsets.
-/

namespace SourceAudit.Regex

abbrev Slots := List (Nat × Nat)

def Slots.put (slots : Slots) (slot position : Nat) : Slots :=
  (slot, position) :: slots.filter (·.1 ≠ slot)

/-- The rest of a pattern, and the positions remembered on the way to it. -/
structure Thread where
  rest : Regex
  slots : Slots

/-- What a pattern can do at a position, in order of preference: take the next character, or stop. -/
inductive Outcome where
  /-- It cannot stop here. -/
  | moves (threads : List Thread)
  /-- It can stop here; some ways to go on are preferred to that and some are not. -/
  | stops (preferred : List Thread) (slots : Slots) (fallback : List Thread)

namespace Outcome

/-- All ways to take the next character. -/
def threads : Outcome → List Thread
  | moves ts => ts
  | stops preferred _ fallback => preferred ++ fallback

/-- The first outcome, and what only the second can do after it. -/
def orElse : Outcome → Outcome → Outcome
  | moves ts, moves us => moves (ts ++ us)
  | moves ts, stops preferred slots fallback => stops (ts ++ preferred) slots fallback
  | stops preferred slots fallback, b => stops preferred slots (fallback ++ b.threads)

/-- Adds a pattern after the rest of each thread. -/
def followed (b : Regex) (ts : List Thread) : List Thread :=
  ts.map fun t => { t with rest := t.rest.andThen b }

/-- The outcome of a sequence: where the first part stops, the second part starts. -/
def andThen (a : Outcome) (b : Regex) (next : Slots → Outcome) : Outcome :=
  match a with
  | moves ts => moves (followed b ts)
  | stops preferred slots fallback =>
    match next slots with
    | moves us => moves (followed b preferred ++ us ++ followed b fallback)
    | stops us slots vs => stops (followed b preferred ++ us) slots (vs ++ followed b fallback)

/-- The outcome of the first round of a loop: a round that takes nothing leaves the loop. -/
def firstRound (a : Outcome) (loop : Regex) : Outcome :=
  match a with
  | moves ts => moves (followed loop ts)
  | stops preferred slots fallback => stops (followed loop preferred) slots (followed loop fallback)

def laterRound (a : Outcome) (loop : Regex) : Outcome := moves (followed loop a.threads)

/-- A round or a stop; the round is preferred if `greedy`. -/
def orStop (a : Outcome) (greedy : Bool) (slots : Slots) : Outcome :=
  if greedy then a.orElse (stops [] slots []) else (stops [] slots []).orElse a

end Outcome

/-- The outcome of a repetition without a maximum, given that of one round. -/
def advanceOpen (round : Slots → Outcome) (a : Regex) (greedy : Bool) : (min : Nat) → Slots → Outcome
  | 0, slots => ((round slots).firstRound (again a greedy)).orStop greedy slots
  | 1, slots => (round slots).firstRound (again a greedy)
  | min + 2, slots =>
    (round slots).andThen (rep a (min + 1) none greedy) (advanceOpen round a greedy (min + 1))

/-- The outcome of a repetition with a maximum, given that of one round. -/
def advanceUpTo (round : Slots → Outcome) (a : Regex) (greedy : Bool) : (max min : Nat) → Slots → Outcome
  | 0, _, slots => .stops [] slots []
  | max + 1, 0, slots =>
    ((round slots).andThen (rep a 0 (some max) greedy) (advanceUpTo round a greedy max 0)).orStop greedy slots
  | max + 1, min + 1, slots =>
    (round slots).andThen (rep a min (some max) greedy) (advanceUpTo round a greedy max min)

def advanceRep (round : Slots → Outcome) (a : Regex) (greedy : Bool) (min : Nat) : (max : Option Nat) → Slots → Outcome
  | none => advanceOpen round a greedy min
  | some max => advanceUpTo round a greedy max min

/-- What a pattern can do at `position`, between the characters `before` and `after`. -/
def advance (before after : Option Char) (position : Nat) : Regex → Slots → Outcome
  | empty, slots => .stops [] slots []
  | set chars, slots =>
    match after with
    | some c => if chars.mem c then .moves [⟨empty, slots⟩] else .moves []
    | none => .moves []
  | look assertion, slots => if assertion.holds before after then .stops [] slots [] else .moves []
  | mark slot, slots => .stops [] (slots.put slot position) []
  | seq a b, slots =>
    (advance before after position a slots).andThen b (advance before after position b)
  | alt a b, slots =>
    (advance before after position a slots).orElse (advance before after position b slots)
  | rep a min max greedy, slots =>
    advanceRep (advance before after position a) a greedy min max slots
  | again a greedy, slots =>
    ((advance before after position a slots).laterRound (again a greedy)).orStop greedy slots

/-- Runs the threads at a position: those that take the next character, and the remembered positions of the first that
stops. Threads after one that stops are given up. -/
def stepThreads (before after : Option Char) (position : Nat) : List Thread → List Thread × Option Slots
  | [] => ([], none)
  | t :: ts =>
    match advance before after position t.rest t.slots with
    | .moves us =>
      let (vs, hit) := stepThreads before after position ts
      (us ++ vs, hit)
    | .stops preferred slots _ => (preferred, some slots)

/-- Keeps the first of the threads with the same rest. -/
def distinct (seen : List Regex) : List Thread → List Thread
  | [] => []
  | t :: ts => if seen.contains t.rest then distinct seen ts else t :: distinct (t.rest :: seen) ts

/-- Moves the threads through the text; `best` is the end and the remembered positions of the best match so far. -/
def run (threads : List Thread) (before : Option Char) (position : Nat) (best : Option (Nat × Slots)) :
    List Char → Option (Nat × Slots)
  | [] =>
    let (_, hit) := stepThreads before none position threads
    (hit.map fun slots => (position, slots)).or best
  | c :: cs =>
    let (next, hit) := stepThreads before (some c) position threads
    let best := (hit.map fun slots => (position, slots)).or best
    if next.isEmpty then best
    else run (distinct [] next) (some c) (position + c.utf8Size) best cs

/-- Where a pattern was found. -/
structure Match where
  start : Nat
  stop : Nat
  slots : Slots
  deriving Repr

namespace Match

/-- The span of a numbered group, if it took part in the match. -/
def group? (m : Match) (i : Nat) : Option (Nat × Nat) :=
  match m.slots.lookup (2 * i), m.slots.lookup (2 * i + 1) with
  | some start, some stop => some (start, stop)
  | _, _ => none

end Match

/-- The preferred match that starts at `position`, where the text `cs` follows the character `before`. -/
def matchAt? (r : Regex) (before : Option Char) (position : Nat) (cs : List Char) : Option Match :=
  (run [⟨r, []⟩] before position none cs).map fun (stop, slots) => ⟨position, stop, slots⟩

/-- The leftmost match that starts in the text `cs`, which follows the character `before` at `position`. -/
def findFrom? (r : Regex) (before : Option Char) (position : Nat) (cs : List Char) : Option Match :=
  match matchAt? r before position cs with
  | some m => some m
  | none =>
    match cs with
    | [] => none
    | c :: cs => findFrom? r (some c) (position + c.utf8Size) cs

def find? (r : Regex) (cs : List Char) : Option Match := findFrom? r none 0 cs

def isMatch (r : Regex) (cs : List Char) : Bool := (r.find? cs).isSome

/-- The matches in the text `cs`, one after the other. `last` is the end of the last match: nothing starts before it,
and what starts there is not empty. -/
def findAllFrom (r : Regex) (before : Option Char) (position : Nat) (last : Option Nat) (cs : List Char) : List Match :=
  let hit :=
    if last.any (position < ·) then none
    else (matchAt? r before position cs).filter fun m => m.start < m.stop || last != some m.stop
  let last := (hit.map (·.stop)).or last
  hit.toList ++
    match cs with
    | [] => []
    | c :: cs => findAllFrom r (some c) (position + c.utf8Size) last cs

/-- The matches one after the other: each is the leftmost that does not overlap an earlier one. -/
def findAll (r : Regex) (cs : List Char) : List Match := findAllFrom r none 0 none cs

end SourceAudit.Regex
