/-!
# Paths

A path is a text with slashes. It is taken apart as it is written, without a look at the files: `.` and nothing
between two slashes name no step, and `..` is a step like any other.

`Path.join` : a path as seen from another.
`Path.parent?` : a path without its last step.
`Path.chain` : a path and those above it.
`Path.fileName?`, `Path.extension?` : the last step, and what follows its last dot.
-/

namespace SourceAudit

abbrev Path := String

namespace Path

/-- The texts between the slashes; there is always one. -/
def segments : List Char → List (List Char)
  | [] => [[]]
  | c :: cs =>
    if c = '/' then [] :: segments cs
    else
      match segments cs with
      | [] => [[c]]
      | s :: ss => (c :: s) :: ss

def isAbsolute (p : Path) : Bool := p.toList.head? == some '/'

/-- A path as seen from a base; one that starts at the root stays as it is. -/
def join (base p : Path) : Path :=
  if p.isAbsolute then p
  else if base.toList.getLast?.any (· ≠ '/') then base ++ "/" ++ p
  else base ++ p

def isIdle (segment : List Char) : Bool := segment = [] || segment = ['.']

/-- The start of a path that is no step (the root, or a leading `.`) and what follows. -/
def splitHead : List Char → List Char × List Char
  | '/' :: cs => (['/'], cs)
  | '.' :: '/' :: cs => (['.'], '/' :: cs)
  | ['.'] => (['.'], [])
  | cs => ([], cs)

/-- The segments of what follows the head, the last first, without idle ones at the end. -/
def steps (body : List Char) : List (List Char) := (segments body).reverse.dropWhile isIdle

/-- The path without its last step. A leading `.` counts as a step if it is the only one; the root has no parent. -/
def parent? (p : Path) : Option Path :=
  let (head, body) := splitHead p.toList
  match steps body with
  | [] => if head = ['.'] then some "" else none
  | _ :: rest => some (String.ofList (head ++ ['/'].intercalate (rest.dropWhile isIdle).reverse))

/-! ## Climbing -/

/-- The room that segments take, each with the slash after it. -/
def room : List (List Char) → Nat
  | [] => 0
  | s :: ss => s.length + 1 + room ss

theorem room_segments (cs : List Char) : room (segments cs) = cs.length + 1 := by
  induction cs with
  | nil => rfl
  | cons c cs ih =>
    unfold segments
    split
    · simp only [room, List.length_nil, List.length_cons] at ih ⊢
      omega
    · split
      · next h => simp [room, h] at ih
      · next h =>
        simp only [h, room, List.length_cons] at ih ⊢
        omega

theorem room_append (as bs : List (List Char)) : room (as ++ bs) = room as + room bs := by
  induction as with
  | nil => simp [room]
  | cons a as ih => simp [room, ih, Nat.add_assoc]

theorem room_reverse (ss : List (List Char)) : room ss.reverse = room ss := by
  induction ss with
  | nil => rfl
  | cons s ss ih =>
    rw [List.reverse_cons, room_append, ih]
    simp [room, Nat.add_comm]

theorem room_dropWhile_le (f : List Char → Bool) (ss : List (List Char)) : room (ss.dropWhile f) ≤ room ss := by
  induction ss with
  | nil => simp
  | cons s ss ih =>
    simp only [List.dropWhile_cons, room] at ih ⊢
    split
    · omega
    · simp [room]

theorem length_intercalate (ss : List (List Char)) : (['/'].intercalate ss).length = room ss - 1 := by
  induction ss with
  | nil => rfl
  | cons s ss ih =>
    cases ss with
    | nil => simp [room]
    | cons t ts =>
      rw [List.intercalate_cons_cons, List.length_append, List.length_append, ih]
      simp only [room, List.length_cons, List.length_nil]
      omega

theorem length_splitHead (cs : List Char) : (splitHead cs).1.length + (splitHead cs).2.length = cs.length := by
  unfold splitHead
  split <;> simp [Nat.add_comm]

theorem length_parent?_lt {p q : Path} (h : p.parent? = some q) : q.length < p.length := by
  have hp := length_splitHead p.toList
  unfold parent? at h
  simp only at h
  rw [← String.length_toList, ← String.length_toList]
  split at h
  · split at h
    · next hh =>
      cases h
      rw [hh] at hp
      simp only [List.length_cons, List.length_nil] at hp
      simp only [String.toList_empty, List.length_nil]
      omega
    · cases h
  · next s rest hs =>
    cases h
    have hroom := room_dropWhile_le isIdle (segments (splitHead p.toList).2).reverse
    rw [room_reverse, room_segments] at hroom
    have hs' : (segments (splitHead p.toList).2).reverse.dropWhile isIdle = s :: rest := hs
    have hne : isIdle s = false := by
      have := List.head?_dropWhile_not isIdle (segments (splitHead p.toList).2).reverse
      rw [hs'] at this
      simpa using this
    have hlen : 0 < s.length := by
      cases s with
      | nil => simp [isIdle] at hne
      | cons => simp
    have hrest := room_dropWhile_le isIdle rest
    rw [hs'] at hroom
    simp only [room] at hroom
    rw [String.toList_ofList, List.length_append, length_intercalate, room_reverse]
    omega

/-- A path and those above it, as far as its text goes. -/
def chain (p : Path) : List Path :=
  p :: match _h : p.parent? with
    | some q => chain q
    | none => []
termination_by p.length
decreasing_by exact length_parent?_lt _h

/-! ## Names -/

/-- The last step of a path, unless it goes up. -/
def fileName? (p : Path) : Option String :=
  match steps (splitHead p.toList).2 with
  | [] => none
  | s :: _ => if s = ['.', '.'] then none else some (String.ofList s)

/-- What follows the last dot of the file name. A dot at the start of the name does not count. -/
def extension? (p : Path) : Option String := do
  let name := (← p.fileName?).toList
  let tail := name.reverse.takeWhile (· ≠ '.')
  guard (tail.length + 1 < name.length)
  return String.ofList tail.reverse

end Path

end SourceAudit
