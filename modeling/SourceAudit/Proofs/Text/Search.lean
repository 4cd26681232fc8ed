import SourceAudit.Proofs.Text.Boundary
import SourceAudit.Text.Search

/-!
# The first occurrence of a text

* `Shortest P a` : of the texts with a property, `a` is one of the shortest;
* `find?_eq_some_iff` : a search gives the length of what stands before the first occurrence;
* `find?_isSome_iff` : it fails only where there is no occurrence;
* `columnAt?_byteLength` : the column behind the start of a text.
-/

namespace SourceAudit.Text

def Shortest (P : List Char → Prop) (a : List Char) : Prop := P a ∧ ∀ b, P b → a.length ≤ b.length

theorem exists_shortest {P : List Char → Prop} {a : List Char} (h : P a) : ∃ b, Shortest P b := by
  induction hn : a.length using Nat.strongRecOn generalizing a with
  | ind n ih =>
    by_cases hshorter : ∃ b, P b ∧ b.length < n
    · obtain ⟨b, hb, hlt⟩ := hshorter
      exact ih b.length hlt hb rfl
    · exact ⟨a, h, fun b hb => Nat.not_lt.mp fun hlt => hshorter ⟨b, hb, hn ▸ hlt⟩⟩

/-- Two starts of a text that are shortest are the same. -/
theorem Shortest.unique {P : List Char → Prop} {cs a b : List Char} (hP : ∀ a, P a → a <+: cs) (ha : Shortest P a)
    (hb : Shortest P b) : a = b := by
  have hlength : a.length = b.length := Nat.le_antisymm (ha.2 b hb.1) (hb.2 a ha.1)
  exact (List.prefix_of_prefix_length_le (hP a ha.1) (hP b hb.1) (Nat.le_of_eq hlength)).eq_of_length hlength

/-- A search ends at the first occurrence. -/
theorem find?_eq_some_iff {needle cs : List Char} {n : Nat} :
    find? needle cs = some n ↔ ∃ a, Shortest (fun a => a ++ needle <+: cs) a ∧ byteLength a = n := by
  induction cs generalizing n with
  | nil =>
    rw [find?]
    constructor
    · intro h
      split at h
      · rename_i hneedle
        cases h
        exact ⟨[], ⟨by simpa using hneedle, fun _ _ => Nat.zero_le _⟩, rfl⟩
      · cases h
    · rintro ⟨a, ⟨ha, -⟩, rfl⟩
      obtain ⟨rfl, rfl⟩ := List.append_eq_nil_iff.mp (List.prefix_nil.mp ha)
      rfl
  | cons c cs ih =>
    rw [find?]
    split
    · rename_i hneedle
      have hhere : ([] : List Char) ++ needle <+: c :: cs := List.isPrefixOf_iff_prefix.mp hneedle
      constructor
      · intro h
        cases h
        exact ⟨[], ⟨hhere, fun _ _ => Nat.zero_le _⟩, rfl⟩
      · rintro ⟨a, ha, rfl⟩
        rw [List.eq_nil_of_length_eq_zero (Nat.le_zero.mp (ha.2 [] hhere))]
        rfl
    · rename_i hneedle
      -- an occurrence in the whole text is one behind its first character
      have hbehind (a : List Char) (ha : a ++ needle <+: c :: cs) : ∃ b, a = c :: b ∧ b ++ needle <+: cs := by
        cases a with
        | nil => exact absurd (List.isPrefixOf_iff_prefix.mpr ha) hneedle
        | cons d b =>
          obtain ⟨rfl, hb⟩ := List.cons_prefix_cons.mp ha
          exact ⟨b, rfl, hb⟩
      rw [Option.map_eq_some_iff]
      constructor
      · rintro ⟨k, hk, rfl⟩
        obtain ⟨a, ⟨ha, hshort⟩, rfl⟩ := ih.mp hk
        refine ⟨c :: a, ⟨List.cons_prefix_cons.mpr ⟨rfl, ha⟩, fun b hb => ?_⟩, rfl⟩
        obtain ⟨b, rfl, hb'⟩ := hbehind b hb
        exact Nat.succ_le_succ (hshort b hb')
      · rintro ⟨a, ⟨ha, hshort⟩, rfl⟩
        obtain ⟨a, rfl, ha'⟩ := hbehind a ha
        refine ⟨byteLength a, ih.mpr ⟨a, ⟨ha', fun b hb => ?_⟩, rfl⟩, rfl⟩
        exact Nat.le_of_succ_le_succ (hshort (c :: b) (List.cons_prefix_cons.mpr ⟨rfl, hb⟩))

theorem find?_isSome_iff {needle cs : List Char} : (find? needle cs).isSome = true ↔ needle <:+: cs := by
  induction cs with
  | nil =>
    rw [find?, List.infix_nil]
    cases needle <;> simp
  | cons c cs ih =>
    rw [find?, List.infix_cons_iff, ← ih, ← List.isPrefixOf_iff_prefix]
    split
    · rename_i hneedle
      simp [hneedle]
    · rename_i hneedle
      simp [hneedle]

theorem columnAt?_byteLength {cs a : List Char} (h : a <+: cs) : columnAt? cs (byteLength a) = some (a.length + 1) := by
  obtain ⟨b, rfl⟩ := h
  rw [columnAt?, takeBytes?_eq_some_iff.mpr ⟨b, rfl, rfl⟩]
  rfl

end SourceAudit.Text
