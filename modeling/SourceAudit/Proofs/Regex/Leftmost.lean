import SourceAudit.Proofs.Regex.Complete
import SourceAudit.Proofs.Text.Search

/-!
# The leftmost match

* `StartsBehind r cs a` : a path of the expression `r` starts behind the start `a` of the text `cs`;
* `find?_start_eq_some_iff` : a match is found behind the shortest such start;
* `isMatch_iff` : an expression occurs exactly if a path of it starts somewhere.
-/

namespace SourceAudit.Regex

open Text (byteLength Shortest)

variable {r : Regex} {cs a : List Char}

/-- A path of the expression starts behind a start of the text. -/
def StartsBehind (r : Regex) (cs a : List Char) : Prop := ∃ b q, cs = a ++ b ∧ Takes r ⟨a.reverse, b, []⟩ q

theorem StartsBehind.isPrefix (h : StartsBehind r cs a) : a <+: cs := by
  obtain ⟨b, -, rfl, -⟩ := h
  exact List.prefix_append a b

theorem Matches.startsBehind {m : Match} (h : Matches r cs m) : ∃ a, StartsBehind r cs a ∧ byteLength a = m.start := by
  obtain ⟨⟨left, right, slots⟩, q, rfl, rfl, ht, rfl⟩ := h
  refine ⟨left.reverse, ⟨right, q, rfl, ?_⟩, Text.byteLength_reverse left⟩
  rwa [List.reverse_reverse]

theorem StartsBehind.exists_match (h : StartsBehind r cs a) : ∃ m, Matches r cs m := by
  obtain ⟨b, q, rfl, ht⟩ := h
  exact ⟨_, ⟨a.reverse, b, []⟩, q, by rw [Cursor.text, List.reverse_reverse], rfl, ht, rfl⟩

/-- A path that starts behind `w` keeps a search from going on beyond it. -/
theorem findFrom?_start_le {left w : List Char} {m : Match} {q : Cursor} (h : Goes r ⟨w.reverse ++ left, cs, []⟩ q)
    (hm : r.findFrom? left.head? (byteLength left) (w ++ cs) = some m) : m.start ≤ byteLength left + byteLength w := by
  induction w generalizing left with
  | nil =>
    rw [findFrom?.eq_def] at hm
    split at hm
    · rename_i m' hmatch
      cases hm
      obtain ⟨found, -, rfl⟩ := Option.map_eq_some_iff.mp hmatch
      exact Nat.le_add_right _ _
    · rename_i hnone
      rw [List.nil_append] at hnone
      have := matchAt?_isSome h (byteLength left)
      rw [List.reverse_nil, List.nil_append, hnone] at this
      cases this
  | cons c w ih =>
    rw [List.cons_append, findFrom?] at hm
    split at hm
    · rename_i m' hmatch
      cases hm
      obtain ⟨found, -, rfl⟩ := Option.map_eq_some_iff.mp hmatch
      exact Nat.le_add_right _ _
    · rw [List.reverse_cons, List.append_assoc] at h
      rw [Nat.add_comm] at hm
      have := @ih (c :: left) h hm
      rw [Text.byteLength_cons] at this ⊢
      omega

theorem StartsBehind.start_le {m : Match} (h : StartsBehind r cs a) (hm : r.find? cs = some m) :
    m.start ≤ byteLength a := by
  obtain ⟨b, q, rfl, ht⟩ := h
  have hgoes : Goes r ⟨a.reverse ++ [], b, []⟩ q := by
    rw [List.append_nil]
    exact ht.goes
  simpa using @findFrom?_start_le r b [] a m q hgoes hm

/-- **A match is found behind the shortest start of the text that a path starts behind.** -/
theorem find?_start_eq_some_iff {n : Nat} :
    (r.find? cs).map (·.start) = some n ↔ ∃ a, Shortest (StartsBehind r cs) a ∧ byteLength a = n := by
  have hfound {m : Match} (hm : r.find? cs = some m) :
      ∃ a, Shortest (StartsBehind r cs) a ∧ byteLength a = m.start := by
    obtain ⟨a, ha, hstart⟩ := (find?_matches hm).startsBehind
    refine ⟨a, ⟨ha, fun b hb => ?_⟩, hstart⟩
    obtain ⟨x, hx⟩ := ha.isPrefix
    obtain ⟨y, hy⟩ := hb.isPrefix
    obtain ⟨w, rfl, -⟩ := Text.split_le (hx.trans hy.symm) (hstart ▸ hb.start_le hm)
    exact (List.prefix_append a w).length_le
  constructor
  · intro h
    obtain ⟨m, hm, rfl⟩ := Option.map_eq_some_iff.mp h
    exact hfound hm
  · rintro ⟨a, ha, rfl⟩
    obtain ⟨m, hm⟩ := Option.isSome_iff_exists.mp (find?_isSome_iff.mpr ha.1.exists_match)
    obtain ⟨a', ha', hstart⟩ := hfound hm
    rw [hm, Option.map_some, ← hstart, Shortest.unique (fun _ h => h.isPrefix) ha ha']

theorem isMatch_iff : r.isMatch cs = true ↔ ∃ a, StartsBehind r cs a := by
  rw [isMatch, find?_isSome_iff]
  constructor
  · rintro ⟨m, hm⟩
    obtain ⟨a, ha, -⟩ := hm.startsBehind
    exact ⟨a, ha⟩
  · rintro ⟨a, ha⟩
    exact ha.exists_match

end SourceAudit.Regex
