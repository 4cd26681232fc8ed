import Mathlib.Data.List.Infix
import SourceAudit.Proofs.Baseline.Lines
import SourceAudit.Proofs.Text.Lowercase

/-!
# The column of a literal that does not heed case

Such a literal is looked for in the line in lower case, and the offset found there is used in the line itself. Where
the lower case of an earlier character takes more or fewer bytes, the column is that of another place.

* `PointsAt value line column` : a part of the line that starts in the column is the value, up to case;
* `columnAt_eq_iff` : the offsets that have a given column;
* `FoundAt.pointsAt_iff` : the column points at the value exactly if the offset leads to a place where the value stands;
* `FoundAt.pointsAt` : it does in a line whose characters keep their width.
-/

namespace SourceAudit.Baseline

open Text (byteLength IsBoundary Shortest)

variable {p : RulePattern} {line : List Char} {column : Nat}

/-- Some part of the line starts in a column and is the value, up to case. -/
def PointsAt (value line : List Char) (column : Nat) : Prop :=
  column - 1 ≤ line.length ∧ ∃ part, part <+: line.drop (column - 1) ∧ Text.lowercase part = Text.lowercase value

/-- The offsets that have a column: the one behind as many characters, and the number of them itself if it is no
boundary. -/
theorem columnAt_eq_iff {n k : Nat} :
    columnAt line n = k + 1 ↔
      (∃ a, a <+: line ∧ byteLength a = n ∧ a.length = k) ∨ (¬IsBoundary line n ∧ n = k) := by
  by_cases hn : IsBoundary line n
  · obtain ⟨a, b, rfl, rfl⟩ := hn
    have ha : a <+: a ++ b := List.prefix_append a b
    rw [columnAt_byteLength ha, Nat.add_right_cancel_iff]
    constructor
    · intro hk
      exact .inl ⟨a, ha, rfl, hk⟩
    · rintro (⟨a', ⟨b', hb'⟩, hn', rfl⟩ | ⟨hn', -⟩)
      · rw [(Text.split_eq hb' hn').1]
      · exact absurd ⟨a, b, rfl, rfl⟩ hn'
  · have hnone : Text.columnAt? line n = none := by
      rwa [← Text.columnAt?_isSome_iff, Option.not_isSome_iff_eq_none] at hn
    rw [columnAt, hnone, Option.getD_none, Nat.add_right_cancel_iff]
    constructor
    · intro hk
      exact .inr ⟨hn, hk⟩
    · rintro (⟨a, ⟨b, hb⟩, rfl, -⟩ | ⟨-, hk⟩)
      · exact absurd ⟨a, b, hb.symm, rfl⟩ hn
      · exact hk

/-- A column points at a value exactly if the value stands behind one character less. -/
theorem pointsAt_iff {value : List Char} {k : Nat} :
    PointsAt value line (k + 1) ↔
      ∃ a part, a ++ part <+: line ∧ a.length = k ∧ Text.lowercase part = Text.lowercase value := by
  rw [PointsAt, Nat.add_sub_cancel]
  constructor
  · rintro ⟨hk, part, ⟨rest, hrest⟩, hpart⟩
    refine ⟨line.take k, part, ⟨rest, ?_⟩, List.length_take_of_le hk, hpart⟩
    rw [List.append_assoc, hrest, List.take_append_drop]
  · rintro ⟨a, part, ⟨rest, rfl⟩, rfl, hpart⟩
    refine ⟨by simp, part, ?_, hpart⟩
    rw [List.append_assoc, List.drop_left]
    exact List.prefix_append part rest

/-- The offset of a match in the line in lower case leads to a place of the line, if it is a boundary there, and else
counts characters. -/
theorem FoundAt.pointsAt_iff (hp : Folded p) (h : FoundAt p line column) :
    ∃ x, Shortest (fun x => x ++ Text.lowercase p.value.toList <+: Text.lowercase line) x ∧
      (PointsAt p.value.toList line column ↔
        ∃ a part, a ++ part <+: line ∧ Text.lowercase part = Text.lowercase p.value.toList ∧
          (byteLength a = byteLength x ∨ (¬IsBoundary line (byteLength x) ∧ a.length = byteLength x))) := by
  obtain ⟨x, hx, rfl⟩ := h.1 hp
  refine ⟨x, hx, ?_⟩
  obtain ⟨k, hk⟩ : ∃ k, columnAt line (byteLength x) = k + 1 := by
    unfold columnAt Text.columnAt?
    cases Text.takeBytes? line (byteLength x) with
    | none => exact ⟨_, rfl⟩
    | some lead => exact ⟨_, rfl⟩
  rw [hk, Baseline.pointsAt_iff]
  constructor
  · rintro ⟨a, part, hpart, rfl, hvalue⟩
    refine ⟨a, part, hpart, hvalue, ?_⟩
    have ha : a <+: line := (List.prefix_append a part).trans hpart
    rcases columnAt_eq_iff.mp hk with ⟨a', ha', hbytes, hlength⟩ | ⟨hnot, hlength⟩
    · obtain rfl : a = a' :=
        (List.prefix_of_prefix_length_le ha ha' (Nat.le_of_eq hlength.symm)).eq_of_length hlength.symm
      exact .inl hbytes
    · exact .inr ⟨hnot, hlength.symm⟩
  · rintro ⟨a, part, hpart, hvalue, hplace⟩
    refine ⟨a, part, hpart, ?_, hvalue⟩
    have ha : a <+: line := (List.prefix_append a part).trans hpart
    have hcolumn : columnAt line (byteLength x) = a.length + 1 := by
      rcases hplace with hbytes | ⟨hnot, hlength⟩
      · exact columnAt_eq_iff.mpr (.inl ⟨a, ha, hbytes, rfl⟩)
      · exact columnAt_eq_iff.mpr (.inr ⟨hnot, hlength.symm⟩)
    rw [hcolumn] at hk
    exact Nat.succ.inj hk

theorem FoundAt.pointsAt (hp : Folded p) (h : FoundAt p line column) (hline : ∀ c ∈ line, Text.keepsWidth c = true) :
    PointsAt p.value.toList line column := by
  obtain ⟨x, ⟨hx, -⟩, hiff⟩ := h.pointsAt_iff hp
  obtain ⟨rest, hrest⟩ := hx
  rw [Text.lowercase_eq_map hline] at hrest
  -- each character of the lower case comes from the one in its place
  obtain ⟨front, back, rfl, hfront, -⟩ := List.map_eq_append_iff.mp hrest.symm
  obtain ⟨a, part, rfl, rfl, hpart⟩ := List.map_eq_append_iff.mp hfront
  simp only [List.forall_mem_append] at hline
  obtain ⟨⟨ha, hpart'⟩, -⟩ := hline
  refine hiff.mpr ⟨a, part, List.prefix_append _ _, ?_, .inl (Text.byteLength_map_lowerOne ha).symm⟩
  rw [Text.lowercase_eq_map hpart', hpart]

/-- **When a finding of a literal that does not heed case points at what was found.** It does exactly if the offset of
the first match in the line in lower case is, in the line itself, that of a place where the value stands, or is no
boundary of the line and counts the characters before such a place. So it does in a line whose characters keep their
width in lower case. -/
theorem folded_points_iff (confidence : Binary64) (context : Nat) (file content : String) (rule : Rule) (f : Finding)
    (hf : f ∈ (analyze confidence context file content rule).findings) (line : List Char)
    (hline : (Text.lines content.toList)[f.location.line - 1]? = some line) (p : RulePattern)
    (hfirst : FirstToFind rule line p) (hp : Folded p) :
    (∃ x, Shortest (fun x => x ++ Text.lowercase p.value.toList <+: Text.lowercase line) x ∧
      (PointsAt p.value.toList line f.location.column ↔
        ∃ a part, a ++ part <+: line ∧ Text.lowercase part = Text.lowercase p.value.toList ∧
          (byteLength a = byteLength x ∨ (¬IsBoundary line (byteLength x) ∧ a.length = byteLength x)))) ∧
    ((∀ c ∈ line, Text.keepsWidth c = true) → PointsAt p.value.toList line f.location.column) := by
  obtain ⟨n, line', column, hline', hcolumn, rfl⟩ := mem_findings_iff.mp hf
  cases hline.symm.trans hline'
  have hfound := hfirst.foundAt hcolumn
  exact ⟨hfound.pointsAt_iff hp, hfound.pointsAt hp⟩

/-- Behind two capitals that take three bytes each in lower case, a finding points two characters too far. -/
theorem folded_points_iff_behind_dotted_capitals :
    let rule : Rule := { id := "token", name := "token", severity := .high, patterns := [⟨.literal, "TOKEN", false⟩] }
    let line := "\u0130\u0130 token".toList
    ∃ f ∈ (analyze (Binary64.ofDecimal false 8 (-1)) 2 "app.py" "\u0130\u0130 token" rule).findings,
      f.location = ⟨1, 6⟩ ∧ PointsAt "TOKEN".toList line 4 ∧ ¬PointsAt "TOKEN".toList line 6 ∧
      ∃ x, Shortest (fun x => x ++ Text.lowercase "TOKEN".toList <+: Text.lowercase line) x ∧
        ¬∃ a part, a ++ part <+: line ∧ Text.lowercase part = Text.lowercase "TOKEN".toList ∧
          (byteLength a = byteLength x ∨ (¬IsBoundary line (byteLength x) ∧ a.length = byteLength x)) := by
  intro rule line
  have hline : (Text.lines "\u0130\u0130 token".toList)[0]? = some line := by decide +kernel
  have hcolumn : columnIn? (usable rule) line = some 6 := by decide +kernel
  have hfinds : Finds ⟨.literal, "TOKEN", false⟩ line := offset?_isSome_iff.mp (by decide +kernel)
  have hwrong : ¬PointsAt "TOKEN".toList line 6 := by
    rintro ⟨-, part, hpart, hvalue⟩
    have hall : (line.drop 5).inits.all (fun part => Text.lowercase part != Text.lowercase "TOKEN".toList) = true := by
      decide +kernel
    have := List.all_eq_true.mp hall part ((List.mem_inits part _).mpr hpart)
    exact bne_iff_ne.mp this hvalue
  let confidence := Binary64.ofDecimal false 8 (-1)
  have hf : finding confidence 2 "app.py" "\u0130\u0130 token" rule line ⟨1, 6⟩ ∈
      (analyze confidence 2 "app.py" "\u0130\u0130 token" rule).findings :=
    mem_findings_iff.mpr ⟨0, line, 6, hline, hcolumn, rfl⟩
  obtain ⟨⟨x, hx, hiff⟩, -⟩ := folded_points_iff _ _ _ _ rule _ hf line hline ⟨.literal, "TOKEN", false⟩
    ⟨[], [], rfl, by simp, hfinds⟩ ⟨rfl, rfl⟩
  refine ⟨_, hf, rfl, ?_, hwrong, x, hx, fun h => hwrong (hiff.mpr h)⟩
  exact pointsAt_iff.mpr ⟨"\u0130\u0130 ".toList, "token".toList, by decide +kernel, rfl, by decide +kernel⟩

end SourceAudit.Baseline
