/-!
# Names of files

A `FileName` is the name of an entry of a directory: a text, or bytes that are no text.

`FileName.shown` : the name as a text, in which a mark stands for each piece that is no character.
`FileName.le` : the order of the entries of a directory, by their bytes.
-/

namespace SourceAudit

/-- The name of an entry of a directory. -/
inductive FileName where
  | text (s : String)
  /-- Bytes that are no text. -/
  | raw (bytes : ByteArray) (h : ¬bytes.IsValidUTF8)

instance : Coe String FileName := ⟨.text⟩

namespace FileName

instance : DecidableEq FileName
  | text s, text t => decidable_of_iff (s = t) (by simp)
  | raw a _, raw b _ => @decidable_of_iff _ (a = b) (by simp) (ByteArray.instDecidableEq a b)
  | text _, raw .. => isFalse (by simp)
  | raw .., text _ => isFalse (by simp)

def bytes : FileName → List UInt8
  | text s => s.toByteArray.data.toList
  | raw bytes _ => bytes.data.toList

/-! ## Order -/

/-- Whether bytes are others or come before them. -/
def bytesLe : List UInt8 → List UInt8 → Bool
  | [], _ => true
  | _ :: _, [] => false
  | a :: as, b :: bs => a.toNat < b.toNat || (a = b && bytesLe as bs)

def le (a b : FileName) : Bool := bytesLe a.bytes b.bytes

/-! ## Bytes as a text -/

def replacement : Char := '�'

/-- A character that is read: its bits so far, and the bounds of the bytes to come. -/
structure Reading where
  bits : Nat := 0
  bounds : List (Nat × Nat) := []

namespace Reading

/-- The bounds of the byte after the first one. Some first bytes do not go with all others. -/
def secondBounds (lead : Nat) : Nat × Nat :=
  if lead = 0xE0 then (0xA0, 0xBF)
  else if lead = 0xED then (0x80, 0x9F)
  else if lead = 0xF0 then (0x90, 0xBF)
  else if lead = 0xF4 then (0x80, 0x8F)
  else (0x80, 0xBF)

/-- The first byte of a character of several bytes. -/
def ofLead? (lead : Nat) : Option Reading :=
  let tail := (0x80, 0xBF)
  if lead < 0xC2 then none
  else if lead < 0xE0 then some ⟨lead - 0xC0, [secondBounds lead]⟩
  else if lead < 0xF0 then some ⟨lead - 0xE0, [secondBounds lead, tail]⟩
  else if lead < 0xF5 then some ⟨lead - 0xF0, [secondBounds lead, tail, tail]⟩
  else none

/-- A byte at the start of a character: what is read with it, and what is read after it. -/
def start (b : Nat) : List Char × Reading :=
  if b < 0x80 then ([Char.ofNat b], {})
  else
    match ofLead? b with
    | some r => ([], r)
    | none => ([replacement], {})

/-- A byte that does not go on with a character ends a piece that is none, and starts anew. -/
def step (r : Reading) (b : Nat) : List Char × Reading :=
  match r.bounds with
  | [] => start b
  | (low, high) :: rest =>
    if low ≤ b && b ≤ high then
      let bits := r.bits * 64 + b % 64
      if rest.isEmpty then ([Char.ofNat bits], {}) else ([], ⟨bits, rest⟩)
    else (replacement :: (start b).1, (start b).2)

def decode (r : Reading) : List UInt8 → List Char
  | [] => if r.bounds.isEmpty then [] else [replacement]
  | b :: bs => (r.step b.toNat).1 ++ decode (r.step b.toNat).2 bs

end Reading

def shown : FileName → String
  | text s => s
  | raw bytes _ => String.ofList (Reading.decode {} bytes.data.toList)

end FileName

end SourceAudit
