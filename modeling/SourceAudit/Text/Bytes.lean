/-!
# Byte offsets

Positions inside a line are counted in bytes of its UTF-8 form. `byteLength` measures a text, `slice? cs i j` cuts out
the bytes from `i` up to `j` and fails unless both are character boundaries in order, and `columnAt? cs i` is the
one-based column, in characters, of the byte offset `i`.
-/

namespace SourceAudit.Text

def byteLength : List Char → Nat
  | [] => 0
  | c :: cs => c.utf8Size + byteLength cs

/-- The text after the first `n` bytes; fails if they end inside a character or beyond the text. -/
def dropBytes? : List Char → Nat → Option (List Char)
  | cs, 0 => some cs
  | [], _ + 1 => none
  | c :: cs, n + 1 => if c.utf8Size ≤ n + 1 then dropBytes? cs (n + 1 - c.utf8Size) else none

/-- The first `n` bytes; fails if they end inside a character or beyond the text. -/
def takeBytes? : List Char → Nat → Option (List Char)
  | _, 0 => some []
  | [], _ + 1 => none
  | c :: cs, n + 1 =>
    if c.utf8Size ≤ n + 1 then (takeBytes? cs (n + 1 - c.utf8Size)).map (c :: ·) else none

/-- The bytes from `start` up to `stop`; fails unless both are character boundaries and `start ≤ stop`. -/
def slice? (cs : List Char) (start stop : Nat) : Option (List Char) :=
  if start ≤ stop then (dropBytes? cs start).bind (takeBytes? · (stop - start)) else none

def columnAt? (cs : List Char) (offset : Nat) : Option Nat :=
  (takeBytes? cs offset).map (·.length + 1)

end SourceAudit.Text
