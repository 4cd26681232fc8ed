import SourceAudit.Text.Blank

/-!
# Blank characters, listed

`blankCodes` : the code points of the blank characters; `eq_false_of_isBlank` : what fails for each of them fails for
every blank character.
-/

namespace SourceAudit.Text

def blankCodes : List Nat :=
  [0x9, 0xA, 0xB, 0xC, 0xD, 0x20, 0x85, 0xA0, 0x1680, 0x2000, 0x2001, 0x2002, 0x2003, 0x2004, 0x2005, 0x2006,
    0x2007, 0x2008, 0x2009, 0x200A, 0x2028, 0x2029, 0x202F, 0x205F, 0x3000]

theorem mem_blankCodes {c : Char} (h : isBlank c = true) : c.toNat ∈ blankCodes := by
  simp only [isBlank, Bool.or_eq_true, Bool.and_eq_true, decide_eq_true_eq, beq_iff_eq] at h
  simp only [blankCodes, List.mem_cons, List.not_mem_nil, or_false]
  omega

/-- What fails for every listed code point fails for every blank character. -/
theorem eq_false_of_isBlank {p : Char → Bool} (hp : ∀ n ∈ blankCodes, p (Char.ofNat n) = false) {c : Char}
    (h : isBlank c = true) : p c = false := by
  have := hp c.toNat (mem_blankCodes h)
  rwa [Char.ofNat_toNat] at this

end SourceAudit.Text
