import SourceAudit.Proofs.Text.Boundary
import SourceAudit.Text.Lowercase

/-!
# Characters whose lower case is as wide as they are

* `keepsWidth c` : the lower case of `c` does not depend on its neighbours and takes as many bytes as `c`;
* `lowerOne c` : that lower case, one character;
* `lowercase_eq_map`, `byteLength_map_lowerOne` : a text of such characters is lowered one by one, and keeps its places.
-/

namespace SourceAudit.Text

/-- The lower case of a character does not depend on its neighbours and takes as many bytes as the character. -/
def keepsWidth (c : Char) : Bool := c.toNat != 0x3A3 && byteLength (lowerChar c) == c.utf8Size

def lowerOne (c : Char) : Char := (lowerChar c).headD c

variable {c : Char} {cs : List Char}

/-- Capital I with a dot above, the one character with a lower case of two, does not keep its width. -/
theorem lowerChar_of_keepsWidth (h : keepsWidth c = true) : lowerChar c = [lowerOne c] := by
  simp only [keepsWidth, Bool.and_eq_true, beq_iff_eq] at h
  unfold lowerOne
  unfold lowerChar at h ⊢
  by_cases hascii : c.toNat < 0x80
  · rw [if_pos hascii]
    rfl
  · rw [if_neg hascii] at h ⊢
    by_cases hdotted : c.toNat = 0x130
    · rw [if_pos hdotted] at h
      obtain rfl : c = Char.ofNat 0x130 := by rw [← hdotted, Char.ofNat_toNat]
      exact absurd h.2 (by decide)
    · rw [if_neg hdotted]
      rfl

theorem utf8Size_lowerOne (h : keepsWidth c = true) : (lowerOne c).utf8Size = c.utf8Size := by
  have hwidth := h
  simp only [keepsWidth, Bool.and_eq_true, beq_iff_eq] at hwidth
  rw [lowerChar_of_keepsWidth h] at hwidth
  simpa using hwidth.2

theorem lowercaseAfter_eq_map (h : ∀ c ∈ cs, keepsWidth c = true) (before : List Char) :
    lowercaseAfter before cs = cs.map lowerOne := by
  induction cs generalizing before with
  | nil => rfl
  | cons c cs ih =>
    rw [List.forall_mem_cons] at h
    have hsigma : c.toNat ≠ 0x3A3 := by
      have := h.1
      simp only [keepsWidth, Bool.and_eq_true, bne_iff_ne] at this
      exact this.1
    rw [lowercaseAfter, if_neg hsigma, lowerChar_of_keepsWidth h.1, ih h.2]
    rfl

theorem lowercase_eq_map (h : ∀ c ∈ cs, keepsWidth c = true) : lowercase cs = cs.map lowerOne :=
  lowercaseAfter_eq_map h []

theorem byteLength_map_lowerOne (h : ∀ c ∈ cs, keepsWidth c = true) : byteLength (cs.map lowerOne) = byteLength cs := by
  induction cs with
  | nil => rfl
  | cons c cs ih =>
    rw [List.forall_mem_cons] at h
    rw [List.map_cons, byteLength_cons, byteLength_cons, utf8Size_lowerOne h.1, ih h.2]

end SourceAudit.Text
