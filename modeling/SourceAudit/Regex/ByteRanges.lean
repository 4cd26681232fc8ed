import SourceAudit.Regex.CodeRanges

/-!
# Ranges of code points as ranges of bytes

`byteRanges first last` : the code points from `first` to `last` in UTF-8, as sequences of byte ranges. Each sequence
stands for every choice of one byte from each of its ranges, and the sequences ascend.

A range of code points is cut until all its members have the same number of bytes and every byte but the first that
varies is followed by bytes that take all their values.
-/

namespace SourceAudit.Regex

abbrev ByteRanges := List (Nat × Nat)

def utf8Bytes (n : Nat) : List Nat :=
  if n < 0x80 then [n]
  else if n < 0x800 then [0xC0 + n / 64, 0x80 + n % 64]
  else if n < 0x10000 then [0xE0 + n / 4096, 0x80 + n / 64 % 64, 0x80 + n % 64]
  else [0xF0 + n / 262144, 0x80 + n / 4096 % 64, 0x80 + n / 64 % 64, 0x80 + n % 64]

/-- Where a range that has to be aligned to blocks of `size` code points is cut: the first code point after the cut. -/
def blockCut? (size first last : Nat) : Option Nat :=
  if first / size = last / size then none
  else if first % size ≠ 0 then some ((first / size + 1) * size)
  else if last % size ≠ size - 1 then some (last / size * size)
  else none

/-- Where a range is cut first: the last code point before the cut and the first after it. -/
def cut? (first last : Nat) : Option (Nat × Nat) :=
  if first < 0xE000 && 0xD7FF < last then some (0xD7FF, 0xE000)
  else
    match [0x7F, 0x7FF, 0xFFFF].find? fun most => first ≤ most && most < last with
    | some most => some (most, most + 1)
    | none =>
      if last < 0x80 then none
      else
        (((blockCut? 64 first last).or (blockCut? 4096 first last)).or (blockCut? 262144 first last)).map fun n =>
          (n - 1, n)

/-- The byte ranges of a range of code points; no range is cut more often than `fuel`. -/
def byteRangesWith : (fuel first last : Nat) → List ByteRanges
  | 0, _, _ => []
  | fuel + 1, first, last =>
    match cut? first last with
    | some (before, after) => byteRangesWith fuel first before ++ byteRangesWith fuel after last
    | none => if first ≤ last then [(utf8Bytes first).zip (utf8Bytes last)] else []

/-- The byte ranges of a range of code points. One cut sets the surrogates apart, three set apart the numbers of
bytes, and two for each byte but the first align the ends. -/
def byteRanges (first last : Nat) : List ByteRanges := byteRangesWith 16 first last

/-- At least as many sequences as there are for a range of code points. -/
def byteRangesBound (first last : Nat) : Nat :=
  if first / 64 = last / 64 then 1 else if first / 4096 = last / 4096 then 9 else 21

end SourceAudit.Regex
