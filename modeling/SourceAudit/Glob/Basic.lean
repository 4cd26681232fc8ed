/-!
# Globs

A `Glob` is a list of tokens that is compared with all the bytes of a path. `*` and `?` also stand for slashes; `?`
and a class stand for one byte. `**` stands for any number of directories where it fills the room between two slashes.

`Glob.accepts` : whether some first part of the bytes fits the tokens and the rest passes a test. `Glob.isMatch` :
whether a path fits a glob. A path that ends in `..` has no file name, so it fits no glob that is compared with the
name of a file or with its extension (`Glob.looksAtName`).
-/

namespace SourceAudit

inductive GlobToken where
  | literal (c : Char)
  /-- One byte. -/
  | any
  /-- Any bytes. -/
  | star
  /-- Directories at the start: nothing, or bytes that end with a slash. -/
  | anyPrefix
  /-- All that is below: a slash and any bytes. -/
  | anySuffix
  /-- Directories in the middle: a slash, or bytes between two slashes. -/
  | anyMiddle
  /-- One byte of the characters in ranges, or with `negated` one that is none of them. -/
  | byteClass (negated : Bool) (ranges : List (Char × Char))
  /-- One of several globs; those that say nothing do not count. -/
  | oneOf (branches : List (List GlobToken))
  deriving Repr, Inhabited

abbrev Glob := List GlobToken

namespace Glob

def bytesOf (s : String) : List UInt8 := s.toUTF8.toList

def charBytes (c : Char) : List UInt8 := bytesOf (String.ofList [c])

/-- The byte `/`. -/
def slash : UInt8 := 47

/-- What can be left after any number of bytes. -/
def tails : List UInt8 → List (List UInt8)
  | [] => [[]]
  | b :: bs => (b :: bs) :: tails bs

/-- What can be left after bytes that end with a slash. -/
def slashTails : List UInt8 → List (List UInt8)
  | [] => []
  | b :: bs => if b = slash then bs :: slashTails bs else slashTails bs

/-- What is left after given bytes. -/
def strip? : List UInt8 → List UInt8 → Option (List UInt8)
  | [], bs => some bs
  | _ :: _, [] => none
  | a :: as, b :: bs => if a = b then strip? as bs else none

/-- Whether a byte is in a range of characters. A range counts from the last byte of its first character to the first
byte of its last one, and their other bytes count too. -/
def inRange (b : UInt8) (range : Char × Char) : Bool :=
  let lo := charBytes range.1
  let hi := charBytes range.2
  lo.contains b || hi.contains b || (range.1 ≠ range.2 && lo.getLastD 0 ≤ b && b ≤ hi.headD 0)

mutual

def isSilentToken : GlobToken → Bool
  | .oneOf branches => allSilent branches
  | _ => false

def isSilent : List GlobToken → Bool
  | [] => true
  | t :: ts => isSilentToken t && isSilent ts

/-- Whether no branch says anything. -/
def allSilent : List (List GlobToken) → Bool
  | [] => true
  | b :: bs => isSilent b && allSilent bs

end

mutual

/-- Whether some first part of the bytes fits the token and the rest passes a test. -/
def acceptsToken (t : GlobToken) (rest : List UInt8 → Bool) (bs : List UInt8) : Bool :=
  match t with
  | .literal c =>
    match strip? (charBytes c) bs with
    | some bs => rest bs
    | none => false
  | .any =>
    match bs with
    | [] => false
    | _ :: bs => rest bs
  | .star => (tails bs).any rest
  | .anyPrefix => rest bs || (slashTails bs).any rest
  | .anySuffix =>
    match bs with
    | [] => false
    | b :: bs => b = slash && (tails bs).any rest
  | .anyMiddle =>
    match bs with
    | [] => false
    | b :: bs => b = slash && (rest bs || (slashTails bs).any rest)
  | .byteClass negated ranges =>
    match bs with
    | [] => false
    | b :: bs => (ranges.any (inRange b) != negated) && rest bs
  | .oneOf branches => if allSilent branches then rest bs else acceptsOneOf branches rest bs

/-- Whether some first part of the bytes fits the tokens and the rest passes a test. -/
def accepts (ts : List GlobToken) (rest : List UInt8 → Bool) (bs : List UInt8) : Bool :=
  match ts with
  | [] => rest bs
  | t :: ts => acceptsToken t (fun bs => accepts ts rest bs) bs

/-- Whether some first part of the bytes fits a branch that says something, and the rest passes a test. -/
def acceptsOneOf (branches : List (List GlobToken)) (rest : List UInt8 → Bool) (bs : List UInt8) : Bool :=
  match branches with
  | [] => false
  | b :: more => (!isSilent b && accepts b rest bs) || acceptsOneOf more rest bs

end

/-- Whether the bytes of a path fit a glob. `**` alone fits everything. -/
def fits (g : Glob) (path : String) : Bool :=
  match g with
  | [.anyPrefix] => true
  | g => accepts g List.isEmpty (bytesOf path)

/-! ## File names -/

def literals? : List GlobToken → Option (List Char)
  | [] => some []
  | .literal c :: ts => (literals? ts).map (c :: ·)
  | _ :: _ => none

def afterDirectories : List GlobToken → List GlobToken
  | .anyPrefix :: ts => ts
  | ts => ts

/-- Whether a glob is a file name at any depth. -/
def isName : Glob → Bool
  | .anyPrefix :: t :: ts => (literals? (t :: ts)).any fun cs => !cs.contains '/'
  | _ => false

def isPath (g : Glob) : Bool := !g.isEmpty && (literals? g).isSome

def isExtension (g : Glob) : Bool :=
  match afterDirectories g with
  | .star :: .literal '.' :: ts => (literals? ts).any fun cs => !cs.contains '.' && !cs.contains '/'
  | _ => false

/-- Whether a glob is the start of a path, with anything after it. -/
def isStart (g : Glob) : Bool :=
  match g.getLast? with
  | some .star => (literals? g.dropLast).any fun cs => !cs.isEmpty
  | some .anySuffix => (literals? g.dropLast).isSome
  | _ => false

/-- Whether a glob is the end of a path, with anything before it. -/
def isEnd : Glob → Bool
  | .anyPrefix :: .literal c :: ts => (literals? (.literal c :: ts)).isSome
  | g =>
    let ts := match afterDirectories g with
      | .star :: ts => ts
      | ts => ts
    (literals? ts).any fun cs => !cs.isEmpty && cs ≠ ['/']

/-- Whether tokens, the last first, end in an extension. -/
def endsInExtension : List GlobToken → Bool
  | .literal c :: ts => c = '.' || (c ≠ '/' && endsInExtension ts)
  | _ => false

/-- Whether a glob is compared with the name of a file or with its extension. -/
def looksAtName (g : Glob) : Bool :=
  isName g || (!isPath g && (isExtension g || (!isStart g && !isEnd g && endsInExtension g.reverse)))

def lastPart (path : String) : List UInt8 := ((bytesOf path).reverse.takeWhile (· ≠ slash)).reverse

def isMatch (g : Glob) (path : String) : Bool := fits g path && !(looksAtName g && lastPart path = bytesOf "..")

end Glob

end SourceAudit
