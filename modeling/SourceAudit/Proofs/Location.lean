import Mathlib.Data.Prod.Lex
import Mathlib.Order.MinMax
import SourceAudit.Location

/-!
# The order of places

`Location.pos` : a place as a pair in the lexicographic order, in which `precedes` is `<`, and `earlier` and `later` are
`min` and `max`.
`Location.Within` : the place is on one of the first lines.
-/

namespace SourceAudit.Location

def pos (l : Location) : ℕ ×ₗ ℕ := toLex (l.line, l.column)

theorem precedes_iff (a b : Location) : a.precedes b = true ↔ a.pos < b.pos := by
  unfold precedes pos
  rw [Prod.Lex.toLex_lt_toLex]
  simp

theorem pos_le_iff {a b : Location} : a.pos ≤ b.pos ↔ a.line < b.line ∨ a.line = b.line ∧ a.column ≤ b.column :=
  Prod.Lex.toLex_le_toLex

theorem pos_earlier (a b : Location) : (a.earlier b).pos = min a.pos b.pos := by
  unfold earlier
  split_ifs with h
  · rw [min_eq_right ((precedes_iff b a).mp h).le]
  · rw [min_eq_left (not_lt.mp (mt (precedes_iff b a).mpr h))]

theorem pos_later (a b : Location) : (a.later b).pos = max a.pos b.pos := by
  unfold later
  split_ifs with h
  · rw [max_eq_left ((precedes_iff b a).mp h).le]
  · rw [max_eq_right (not_lt.mp (mt (precedes_iff b a).mpr h))]

/-- The place is on one of the first `count` lines; lines and columns are counted from 1. -/
structure Within (count : Nat) (l : Location) : Prop where
  line_pos : 1 ≤ l.line
  line_le : l.line ≤ count
  column_pos : 1 ≤ l.column

end SourceAudit.Location
