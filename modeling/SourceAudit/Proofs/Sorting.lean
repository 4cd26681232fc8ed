import Mathlib.Data.List.Basic

/-!
# Stable sorting

* `mergeSort_eq_foldr` : sorting is insertion from the end, by a recursion that can be evaluated;
* `filter_mergeSort`, `pairwise_ties_mergeSort` : sorting keeps the order of what it does not tell apart.
-/

namespace SourceAudit

variable {α : Type}

/-- Puts an element before all of a list that it does not exceed. -/
def stableInsert (le : α → α → Bool) (a : α) (l : List α) : List α :=
  l.filter (fun b => !le a b) ++ a :: l.filter (fun b => le a b)

variable {le : α → α → Bool} (trans : ∀ a b c : α, le a b → le b c → le a c)
  (total : ∀ a b : α, le a b || le b a)
include trans total

theorem mergeSort_cons_eq (a : α) (l : List α) : (a :: l).mergeSort le = stableInsert le a (l.mergeSort le) := by
  obtain ⟨l₁, l₂, hcons, hl, hbefore⟩ := List.mergeSort_cons trans total a l
  have hafter : ∀ b ∈ l₂, le a b = true := by
    have hsorted := List.pairwise_mergeSort trans total (a :: l)
    rw [hcons] at hsorted
    exact (List.pairwise_cons.mp (List.pairwise_append.mp hsorted).2.1).1
  have h₁ : l₁.filter (fun b => le a b) = [] := List.filter_eq_nil_iff.mpr fun b hb => by simpa using hbefore b hb
  have h₂ : l₂.filter (fun b => !le a b) = [] := List.filter_eq_nil_iff.mpr fun b hb => by simpa using hafter b hb
  rw [hcons, hl, stableInsert, List.filter_append, List.filter_append, h₁, h₂, List.filter_eq_self.mpr hbefore,
    List.filter_eq_self.mpr hafter, List.append_nil, List.nil_append]

theorem mergeSort_eq_foldr (l : List α) : l.mergeSort le = l.foldr (stableInsert le) [] := by
  induction l with
  | nil => exact List.mergeSort_nil
  | cons a l ih => rw [mergeSort_cons_eq trans total, ih, List.foldr_cons]

theorem filter_mergeSort (p : α → Bool) (l : List α) : (l.mergeSort le).filter p = (l.filter p).mergeSort le := by
  induction l with
  | nil => simp
  | cons a l ih =>
    by_cases ha : p a = true
    · rw [List.filter_cons_of_pos ha, mergeSort_cons_eq trans total, mergeSort_cons_eq trans total, ← ih,
        stableInsert, stableInsert, List.filter_append, List.filter_cons_of_pos ha]
      simp only [List.filter_filter, Bool.and_comm]
    · obtain ⟨l₁, l₂, hcons, hl, -⟩ := List.mergeSort_cons trans total a l
      rw [List.filter_cons_of_neg ha, ← ih, hcons, hl, List.filter_append, List.filter_append,
        List.filter_cons_of_neg ha]

/-- Of two elements that could stand in either order, the one that stood first stands first. -/
theorem pairwise_ties_mergeSort {R : α → α → Prop} {l : List α} (h : l.Pairwise R) :
    (l.mergeSort le).Pairwise fun a b => le b a = true → R a b := by
  induction l with
  | nil => simp
  | cons a l ih =>
    obtain ⟨ha, hl⟩ := List.pairwise_cons.mp h
    obtain ⟨l₁, l₂, hcons, hsorted, hbefore⟩ := List.mergeSort_cons trans total a l
    have hties := ih hl
    have hmem : ∀ b ∈ l₂, R a b := fun b hb =>
      ha b (List.mem_mergeSort.mp (hsorted ▸ List.mem_append_right l₁ hb))
    rw [hsorted] at hties
    rw [hcons]
    obtain ⟨h₁, h₂, hacross⟩ := List.pairwise_append.mp hties
    refine List.pairwise_append.mpr ⟨h₁, List.pairwise_cons.mpr ⟨fun b hb _ => hmem b hb, h₂⟩, fun b hb => ?_⟩
    refine List.forall_mem_cons.mpr ⟨fun hab => ?_, hacross b hb⟩
    have := hbefore b hb
    rw [hab] at this
    cases this

end SourceAudit
