import Mathlib.Algebra.BigOperators.Group.List.Lemmas
import Mathlib.Algebra.Ring.Nat
import Mathlib.Data.Finset.Card
import Mathlib.Data.List.Induction
import SourceAudit.Proofs.SortedMap
import SourceAudit.Summary

/-!
# Summaries add up

* `SeverityCounts.of` : the count of a severity; `of_ofFindings` : it is the number of findings with that severity;
* `entries_categories` : the categories of a summary are those of the findings, in ascending order, each with its
  number of findings;
* `Summary.AddsUp` : the numbers of a summary are the numbers of the findings; `addsUp_ofFindings` : every summary
  adds up.
-/

namespace SourceAudit

/-! ## Severities -/

namespace SeverityCounts

def of (c : SeverityCounts) : Severity → Nat
  | .critical => c.critical
  | .high => c.high
  | .medium => c.medium
  | .low => c.low
  | .info => c.info

def total (c : SeverityCounts) : Nat := c.critical + c.high + c.medium + c.low + c.info

theorem of_count (c : SeverityCounts) (counted s : Severity) :
    (c.count counted).of s = c.of s + if counted = s then 1 else 0 := by
  cases counted <;> cases s <;> rfl

theorem total_count (c : SeverityCounts) (counted : Severity) : (c.count counted).total = c.total + 1 := by
  cases counted <;> simp only [count, total] <;> omega

theorem ofFindings_concat (fs : List Finding) (f : Finding) :
    ofFindings (fs ++ [f]) = (ofFindings fs).count f.severity := by
  rw [ofFindings, List.foldl_append]
  rfl

theorem of_ofFindings (fs : List Finding) (s : Severity) : (ofFindings fs).of s = (fs.map (·.severity)).count s := by
  induction fs using List.reverseRecOn with
  | nil => cases s <;> rfl
  | append_singleton fs f ih =>
    rw [ofFindings_concat, of_count, ih, List.map_append, List.count_append, List.map_singleton, List.count_singleton]
    simp only [beq_iff_eq]

theorem total_ofFindings (fs : List Finding) : (ofFindings fs).total = fs.length := by
  induction fs using List.reverseRecOn with
  | nil => rfl
  | append_singleton fs f ih => rw [ofFindings_concat, total_count, ih, List.length_append, List.length_singleton]

end SeverityCounts

/-! ## Categories -/

namespace SortedMap

variable {α : Type}

/-- The entry under a key of a map that is given by its keys. -/
theorem lookup_map (g : String → α) (key : String) (ks : List String) :
    (ks.map fun k => (k, g k)).lookup key = if key ∈ ks then some (g key) else none := by
  induction ks with
  | nil => rfl
  | cons k ks ih =>
    by_cases h : key = k
    · rw [List.map_cons, h, List.lookup_cons_self, if_pos List.mem_cons_self]
    · rw [List.map_cons, List.lookup_cons, beq_false_of_ne h]
      simp only [ih, List.mem_cons, h, false_or]

theorem insertEntry_map (key : String) (value : α) (g : String → α) {ks : List String} (h : ks.Pairwise (· < ·)) :
    insertEntry key value (ks.map fun k => (k, g k)) =
      (insertSorted key ks).map fun k => (k, if k = key then value else g k) := by
  -- keys behind the place of the new one are greater, so they keep their values
  have hothers {ks : List String} (hks : ∀ k ∈ ks, k ≠ key) :
      (ks.map fun k => (k, g k)) = ks.map fun k => (k, if k = key then value else g k) :=
    List.map_congr_left fun k hk => by rw [if_neg (hks k hk)]
  induction ks with
  | nil => rw [insertSorted, List.map_nil, insertEntry, List.map_singleton, if_pos rfl]
  | cons k ks ih =>
    obtain ⟨hk, hks⟩ := List.pairwise_cons.mp h
    rw [List.map_cons, insertEntry, insertSorted]
    split_ifs with hlt heq
    · have hgreater : ∀ l ∈ k :: ks, l ≠ key := by
        intro l hl
        rcases List.mem_cons.mp hl with rfl | hl
        · exact ne_of_gt hlt
        · exact ne_of_gt (hlt.trans (hk l hl))
      rw [List.map_cons, if_pos rfl, ← hothers hgreater, List.map_cons]
    · subst heq
      rw [List.map_cons, if_pos rfl, hothers fun l hl => ne_of_gt (hk l hl)]
    · rw [List.map_cons, if_neg (Ne.symm heq), ih hks]

end SortedMap

namespace Summary

theorem categories_concat (fs : List Finding) (f : Finding) : categories (fs ++ [f]) =
    (categories fs).insert f.category (((categories fs).get? f.category).getD 0 + 1) := by
  rw [categories, List.foldl_append]
  rfl

theorem entries_categories (fs : List Finding) : (categories fs).entries =
    (sortedSet (fs.map (·.category))).members.map fun k => (k, (fs.map (·.category)).count k) := by
  induction fs using List.reverseRecOn with
  | nil => rfl
  | append_singleton fs f ih =>
    have hcount : ((categories fs).get? f.category).getD 0 = (fs.map (·.category)).count f.category := by
      rw [SortedMap.get?, ih, SortedMap.lookup_map]
      split_ifs with h
      · rfl
      · rw [List.count_eq_zero_of_not_mem fun hf => h ((mem_sortedSet _ _).mpr hf)]
        rfl
    have hset : sortedSet ((fs ++ [f]).map (·.category)) = (sortedSet (fs.map (·.category))).insert f.category := by
      rw [List.map_append, sortedSet, List.foldl_append]
      rfl
    rw [categories_concat, hcount, hset, SortedMap.entries_insert, ih,
      SortedMap.insertEntry_map _ _ _ (StringSet.ascending _)]
    refine List.map_congr_left fun k _ => ?_
    rw [List.map_append, List.count_append, List.map_singleton, List.count_singleton]
    by_cases h : k = f.category
    · simp [h]
    · simp [h, Ne.symm h]

/-! ## Summaries -/

/-- The numbers of a summary are the numbers of the findings. -/
structure AddsUp (s : Summary) (fs : List Finding) (totalFiles : Nat) : Prop where
  files : s.totalFiles = totalFiles
  total : s.totalFindings = fs.length
  severity_count : ∀ level, s.bySeverity.of level = (fs.map (·.severity)).count level
  severities_sum :
    s.bySeverity.critical + s.bySeverity.high + s.bySeverity.medium + s.bySeverity.low + s.bySeverity.info =
      s.totalFindings
  categories_sum : (s.byCategory.entries.map (·.2)).sum = s.totalFindings
  category_count : ∀ category count, (category, count) ∈ s.byCategory.entries →
    0 < count ∧ (∃ f ∈ fs, f.category = category) ∧ count = (fs.map (·.category)).count category
  /-- Every category of a finding is listed, and none is listed twice. -/
  category_mem : ∀ f ∈ fs, f.category ∈ s.byCategory.keys
  categories_ascend : s.byCategory.keys.Pairwise (· < ·)
  distinct_files : s.filesWithFindings = (fs.map (·.file)).toFinset.card

theorem length_sortedSet (names : List String) : (sortedSet names).members.length = names.toFinset.card := by
  rw [← List.toFinset_card_of_nodup (sortedSet names).nodup]
  congr 1
  ext k
  rw [List.mem_toFinset, List.mem_toFinset, mem_sortedSet]

theorem keys_categories (fs : List Finding) : (categories fs).keys = (sortedSet (fs.map (·.category))).members := by
  rw [SortedMap.keys, entries_categories, List.map_map]
  exact List.map_id _

theorem sum_categories (fs : List Finding) : ((categories fs).entries.map (·.2)).sum = fs.length := by
  have hperm : (sortedSet (fs.map (·.category))).members.Perm (fs.map (·.category)).dedup := by
    rw [List.perm_ext_iff_of_nodup (StringSet.nodup _) (List.nodup_dedup _)]
    exact fun k => (mem_sortedSet _ k).trans List.mem_dedup.symm
  have hcounts : (categories fs).entries.map (·.2) =
      (sortedSet (fs.map (·.category))).members.map fun k => (fs.map (·.category)).count k := by
    rw [entries_categories, List.map_map]
    rfl
  rw [hcounts, (hperm.map _).sum_eq, List.sum_map_count_dedup_eq_length, List.length_map]

theorem addsUp_ofFindings (fs : List Finding) (totalFiles : Nat) : (ofFindings fs totalFiles).AddsUp fs totalFiles where
  files := rfl
  total := rfl
  severity_count := SeverityCounts.of_ofFindings fs
  severities_sum := SeverityCounts.total_ofFindings fs
  categories_sum := sum_categories fs
  category_count := by
    intro category count h
    rw [ofFindings, entries_categories] at h
    obtain ⟨k, hk, heq⟩ := List.mem_map.mp h
    cases heq
    have hmem := (mem_sortedSet _ category).mp hk
    exact ⟨List.count_pos_iff.mpr hmem, List.mem_map.mp hmem, rfl⟩
  category_mem := by
    intro f hf
    rw [ofFindings, keys_categories, mem_sortedSet]
    exact List.mem_map_of_mem hf
  categories_ascend := by
    rw [ofFindings, keys_categories]
    exact StringSet.ascending _
  distinct_files := length_sortedSet _

end Summary

end SourceAudit
