import SourceAudit.Proofs.Outline.Build

/-!
# Blocks nest

* `blockLength indent lines` : how many of some lines belong to the block of a line before them;
* `blockLength_blank`, `blockLength_deeper`, `blockLength_shallow` : whether the first of the lines belongs to it;
* `blockLength_anti` : a line that is indented less has a longer block;
* `Closes indent lines k last` : the block ends with the line `last`, after `k` others;
* `Closes.tail`, `Closes.inner` : a block one line later, and a block inside a block.
-/

namespace SourceAudit.Outline

variable {indent k : Nat} {line last : List Char} {lines rest : List (List Char)}

/-- How many lines belong to the block of a line before them with a given indentation. -/
def blockLength (indent : Nat) (lines : List (List Char)) : Nat := blockLengthFrom indent 0 0 lines

/-- Lines that have been looked at only count if a line after them belongs to the block. -/
theorem blockLengthFrom_eq (indent passed last : Nat) (lines : List (List Char)) :
    blockLengthFrom indent passed last lines =
      if blockLength indent lines = 0 then last else passed + blockLength indent lines := by
  induction lines generalizing passed last with
  | nil => rfl
  | cons line lines ih =>
    have hzero : blockLength indent (line :: lines) = blockLengthFrom indent 0 0 (line :: lines) := rfl
    rw [hzero, blockLengthFrom, blockLengthFrom]
    split
    · rw [ih, ih 1 0]
      split
      · rfl
      · rw [if_neg (by omega)]
        omega
    · split
      · rw [ih, ih 1 1]
        split <;> rw [if_neg (by omega)]
        omega
      · split
        · rw [if_neg (by omega)]
        · rfl

theorem blockLength_blank (h : Text.trimStart line = []) :
    blockLength indent (line :: rest) = if blockLength indent rest = 0 then 0 else blockLength indent rest + 1 := by
  rw [blockLength, blockLengthFrom, h]
  dsimp only
  rw [blockLengthFrom_eq, Nat.zero_add, Nat.add_comm]

theorem blockLength_deeper {c : Char} {tail : List Char} (h : Text.trimStart line = c :: tail)
    (hi : indent < indentation line) : blockLength indent (line :: rest) = blockLength indent rest + 1 := by
  rw [blockLength, blockLengthFrom, h]
  dsimp only
  rw [if_pos hi, blockLengthFrom_eq]
  split <;> omega

/-- A closing bracket that is indented as much ends a block; any other line that is not indented more is behind it. -/
theorem blockLength_shallow {c : Char} {tail : List Char} (h : Text.trimStart line = c :: tail)
    (hi : ¬indent < indentation line) :
    blockLength indent (line :: rest) = if indentation line = indent && closesBracket c then 1 else 0 := by
  rw [blockLength, blockLengthFrom, h]
  dsimp only
  rw [if_neg hi]

theorem blockLength_anti {deeper : Nat} (h : indent < deeper) (lines : List (List Char)) :
    blockLength deeper lines ≤ blockLength indent lines := by
  induction lines with
  | nil => exact Nat.le_refl _
  | cons line lines ih =>
    cases hl : Text.trimStart line with
    | nil =>
      rw [blockLength_blank hl, blockLength_blank hl]
      split <;> split <;> omega
    | cons c tail =>
      by_cases hi : indent < indentation line
      · rw [blockLength_deeper hl hi]
        by_cases hd : deeper < indentation line
        · rw [blockLength_deeper hl hd]
          omega
        · rw [blockLength_shallow hl hd]
          split <;> omega
      · rw [blockLength_shallow hl (show ¬deeper < indentation line by omega), if_neg (by simp; omega)]
        exact Nat.zero_le _

/-! ## Last lines -/

/-- The block of a line before some lines ends with the line `last` of them, after `k` others. -/
def Closes (indent : Nat) (lines : List (List Char)) (k : Nat) (last : List Char) : Prop :=
  blockLength indent lines = k + 1 ∧ lines[k]? = some last

theorem closes_of_getLast? (h : (blockLines line rest).getLast? = some last) :
    ∃ k, (blockLines line rest).length = k + 1 ∧ Closes (indentation line) rest k last := by
  have hlen : (blockLines line rest).length = blockLength (indentation line) rest := by
    rw [blockLines, List.length_take, Nat.min_eq_left]
    · rfl
    · have := blockLengthFrom_le (indentation line) 0 0 rest (Nat.le_refl 0)
      rwa [Nat.zero_add] at this
  obtain ⟨k, hk⟩ : ∃ k, (blockLines line rest).length = k + 1 := by
    refine Nat.exists_eq_add_one.mpr (List.length_pos_iff.mpr fun hn => ?_)
    rw [hn] at h
    cases h
  refine ⟨k, hk, hlen ▸ hk, ?_⟩
  rw [List.getLast?_eq_getElem?, hk, Nat.add_sub_cancel, blockLines, List.getElem?_take] at h
  split at h
  · exact h
  · cases h

theorem Closes.tail (h : Closes indent (line :: rest) (k + 1) last) : Closes indent rest k last := by
  obtain ⟨hlen, hlast⟩ := h
  refine ⟨?_, by simpa using hlast⟩
  cases hl : Text.trimStart line with
  | nil =>
    rw [blockLength_blank hl] at hlen
    split at hlen <;> omega
  | cons c tail =>
    by_cases hi : indent < indentation line
    · rw [blockLength_deeper hl hi] at hlen
      omega
    · rw [blockLength_shallow hl hi] at hlen
      split at hlen <;> omega

/-- A block that starts inside a block, with a line that is no closing bracket, ends inside it. -/
theorem Closes.inner {c : Char} {tail inner : List Char} {j : Nat} (h : Closes indent (line :: rest) k last)
    (hl : Text.trimStart line = c :: tail) (hc : closesBracket c = false)
    (hinner : Closes (indentation line) rest j inner) :
    j + 1 ≤ k ∧ (j + 1 = k → inner = last) := by
  obtain ⟨hlen, hlast⟩ := h
  have hi : indent < indentation line := by
    refine Classical.byContradiction fun hi => ?_
    rw [blockLength_shallow hl hi, hc] at hlen
    simp at hlen
  rw [blockLength_deeper hl hi] at hlen
  have hle := blockLength_anti hi rest
  rw [hinner.1] at hle
  refine ⟨by omega, ?_⟩
  rintro rfl
  rw [List.getElem?_cons_succ] at hlast
  exact Option.some.inj (hinner.2.symm.trans hlast)

end SourceAudit.Outline
