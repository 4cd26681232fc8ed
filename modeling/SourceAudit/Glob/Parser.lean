import SourceAudit.Glob.Basic

/-!
# The text of globs

`Glob.parse` : the glob with a text. A backslash takes the meaning away from the next character, except in a class.
-/

namespace SourceAudit.Glob

/-- Why a text is no glob. -/
inductive Error where
  | unclosedClass
  | invalidRange (lo hi : Char)
  | unopenedGroup
  | unclosedGroup
  | danglingEscape
  deriving DecidableEq, Repr

namespace Error

def cause : Error → String
  | unclosedClass => "unclosed character class; missing ']'"
  | invalidRange lo hi => s!"invalid range; '{lo}' > '{hi}'"
  | unopenedGroup => "unopened alternate group; missing '\x7b' (maybe escape '\x7d' with '[\x7d]'?)"
  | unclosedGroup => "unclosed alternate group; missing '\x7d' (maybe escape '\x7b' with '[\x7b]'?)"
  | danglingEscape => "dangling '\\'"

def message (e : Error) (text : String) : String := s!"error parsing glob '{text}': {e.cause}"

end Error

/-! ## Classes -/

/-- Makes the last range (they are kept the last first) end at a character. -/
def endRange (c : Char) : List (Char × Char) → Except Error (List (Char × Char))
  | [] => .ok [(c, c)]
  | (lo, _) :: rs => if c < lo then .error (.invalidRange lo c) else .ok ((lo, c) :: rs)

/-- The ranges of a class after its first character, and what follows the closing bracket. `dash` says that the
character before was a hyphen that may make a range. -/
def classRanges (ranges : List (Char × Char)) (dash : Bool) : List Char → Except Error (List (Char × Char) × List Char)
  | [] => .error .unclosedClass
  | ']' :: cs => .ok ((if dash then ('-', '-') :: ranges else ranges).reverse, cs)
  | c :: cs =>
    if dash then do classRanges (← endRange c ranges) false cs
    else if c = '-' then classRanges ranges true cs
    else classRanges ((c, c) :: ranges) false cs

/-- The members of a class. The first character stands for itself. -/
def readMembers (negated : Bool) : List Char → Except Error (GlobToken × List Char)
  | [] => .error .unclosedClass
  | c :: cs =>
    match classRanges [(c, c)] false cs with
    | .ok (ranges, cs) => .ok (.byteClass negated ranges, cs)
    | .error e => .error e

/-- The rest of a class, after the opening bracket. -/
def readClass : List Char → Except Error (GlobToken × List Char)
  | '!' :: cs => readMembers true cs
  | '^' :: cs => readMembers true cs
  | cs => readMembers false cs

theorem length_classRanges {ranges : List (Char × Char)} {dash : Bool} {cs : List Char} {found : List (Char × Char)}
    {rest : List Char} (h : classRanges ranges dash cs = .ok (found, rest)) : rest.length < cs.length := by
  induction cs generalizing ranges dash with
  | nil => simp [classRanges] at h
  | cons c cs ih =>
    unfold classRanges at h
    split at h
    · cases h
    · next heq =>
      cases heq
      cases h
      simp
    · next heq =>
      cases heq
      split at h
      · cases hr : endRange c ranges with
        | error e => simp [hr, bind, Except.bind] at h
        | ok rs =>
          simp only [hr, bind, Except.bind] at h
          have := ih h
          simp only [List.length_cons]
          omega
      · split at h
        · have := ih h
          simp only [List.length_cons]
          omega
        · have := ih h
          simp only [List.length_cons]
          omega

theorem length_readMembers {negated : Bool} {cs : List Char} {t : GlobToken} {rest : List Char}
    (h : readMembers negated cs = .ok (t, rest)) : rest.length < cs.length := by
  unfold readMembers at h
  split at h
  · cases h
  · split at h
    · next hc =>
      cases h
      have := length_classRanges hc
      simp only [List.length_cons]
      omega
    · cases h

theorem length_readClass {cs : List Char} {t : GlobToken} {rest : List Char} (h : readClass cs = .ok (t, rest)) :
    rest.length < cs.length := by
  unfold readClass at h
  split at h
  · exact Nat.lt_succ_of_lt (length_readMembers h)
  · exact Nat.lt_succ_of_lt (length_readMembers h)
  · exact length_readMembers h

/-! ## Tokens -/

/-- A group that is not closed yet: what stood before it, and its branches so far, the last first. -/
structure Frame where
  before : Glob
  branches : List Glob

/-- What was read so far: the tokens of the branch, the last first, and the open groups, the innermost first. -/
structure State where
  current : Glob := []
  frames : List Frame := []

namespace State

def push (s : State) (t : GlobToken) : State := { s with current := t :: s.current }

def pushStars (s : State) : State := (s.push .star).push .star

/-- Puts a token in the place of the last one, the slash before it. The directories that are there already stay. -/
def turnLast (s : State) (t : GlobToken) : State :=
  match s.current with
  | .anyPrefix :: _ => s
  | .anySuffix :: _ => s
  | _ :: ts => { s with current := t :: ts }
  | [] => { s with current := [t] }

def openGroup (s : State) : State := { current := [], frames := ⟨s.current, []⟩ :: s.frames }

/-- Starts the next branch of the group, or adds a comma where there is none. -/
def nextBranch (s : State) : State :=
  match s.frames with
  | [] => s.push (.literal ',')
  | f :: fs => { current := [], frames := { f with branches := s.current.reverse :: f.branches } :: fs }

def closeGroup (s : State) : Except Error State :=
  match s.frames with
  | [] => .error .unopenedGroup
  | f :: fs => .ok { current := .oneOf (s.current.reverse :: f.branches).reverse :: f.before, frames := fs }

/-- Two stars, with the character before them and what follows: the state then, and whether the slash after them is part
of it. -/
def pushDoubleStar (s : State) (before : Option Char) (after : Option Char) : State × Bool :=
  let inGroup := !s.frames.isEmpty
  if s.current.isEmpty then
    if after = none then (s.push .anyPrefix, false)
    else if after = some '/' then (s.push .anyPrefix, true)
    else (s.pushStars, false)
  else if before = some '/' || (inGroup && (before = some ',' || before = some '\x7b')) then
    if after = none || (inGroup && (after = some ',' || after = some '\x7d')) then (s.turnLast .anySuffix, false)
    else if after = some '/' then (s.turnLast .anyMiddle, true)
    else (s.pushStars, false)
  else (s.pushStars, false)

end State

/-- Reads the characters that are left; `before` is the one before them. -/
def read (s : State) (before : Option Char) (cs : List Char) : Except Error State :=
  match cs with
  | [] => .ok s
  | '?' :: cs => read (s.push .any) (some '?') cs
  | '*' :: '*' :: cs =>
    match s.pushDoubleStar before cs.head? with
    | (s, true) => read s (some '/') cs.tail
    | (s, false) => read s (some '*') cs
  | '*' :: cs => read (s.push .star) (some '*') cs
  | '[' :: cs =>
    match _h : readClass cs with
    | .ok (t, cs) => read (s.push t) (some ']') cs
    | .error e => .error e
  | '\x7b' :: cs => read s.openGroup (some '\x7b') cs
  | '\x7d' :: cs =>
    match s.closeGroup with
    | .ok s => read s (some '\x7d') cs
    | .error e => .error e
  | ',' :: cs => read s.nextBranch (some ',') cs
  | ['\\'] => .error .danglingEscape
  | '\\' :: c :: cs => read (s.push (.literal c)) (some c) cs
  | c :: cs => read (s.push (.literal c)) (some c) cs
termination_by cs.length
decreasing_by
  all_goals simp only [List.length_cons, List.length_tail]
  all_goals first
    | omega
    | exact Nat.lt_succ_of_lt (length_readClass _h)

def parse (text : String) : Except Error Glob := do
  let s ← read {} none text.toList
  if s.frames.isEmpty then return s.current.reverse else .error .unclosedGroup

end SourceAudit.Glob
