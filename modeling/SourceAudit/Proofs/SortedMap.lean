import Mathlib.Data.List.Sort
import Mathlib.Data.String.Basic
import SourceAudit.SortedMap

/-!
# Sets and maps in key order

`mem_sortedSet` : the members of a set that is built from a list; `StringSet.eq_of_mem_iff` : a set is determined by its
members.

`SortedMap.get?_insert` : what stands under a key after an insertion. Of two insertions under one key the second counts
(`insert_insert`), and under different keys their order does not matter (`insert_comm`).
-/

namespace SourceAudit

theorem mem_foldl_insert (names : List String) (set : StringSet) (k : String) :
    k ∈ (names.foldl StringSet.insert set).members ↔ k ∈ set.members ∨ k ∈ names := by
  induction names generalizing set with
  | nil => simp
  | cons s ss ih =>
    rw [List.foldl_cons, ih, StringSet.insert, mem_insertSorted, List.mem_cons]
    tauto

theorem mem_sortedSet (names : List String) (k : String) : k ∈ (sortedSet names).members ↔ k ∈ names := by
  rw [sortedSet, mem_foldl_insert]
  exact or_iff_right (List.not_mem_nil)

theorem StringSet.nodup (set : StringSet) : set.members.Nodup := set.ascending.imp ne_of_lt

theorem StringSet.eq_of_mem_iff {s t : StringSet} (h : ∀ k, k ∈ s.members ↔ k ∈ t.members) : s = t := by
  have hperm : s.members.Perm t.members := (List.perm_ext_iff_of_nodup s.nodup t.nodup).mpr h
  exact StringSet.ext (hperm.eq_of_pairwise (fun a b _ _ hab hba => absurd hba (lt_asymm hab)) s.ascending t.ascending)

theorem eq_sortedSet {names : List String} {kinds : StringSet} (h : ∀ k, k ∈ kinds.members ↔ k ∈ names) :
    kinds = sortedSet names :=
  StringSet.eq_of_mem_iff fun k => (h k).trans (mem_sortedSet names k).symm

namespace SortedMap

variable {α : Type} {a b : String}

theorem lookup_insertEntry (key k : String) (value : α) (es : List (String × α)) :
    (insertEntry key value es).lookup k = if k = key then some value else es.lookup k := by
  have hcons (l : String) (v : α) (es : List (String × α)) :
      ((l, v) :: es).lookup k = if k = l then some v else es.lookup k := by
    by_cases h : k = l
    · rw [if_pos h, h, List.lookup_cons_self]
    · rw [if_neg h, List.lookup_cons, beq_false_of_ne h]
  fun_induction insertEntry key value es with
  | case1 => rw [hcons]
  | case2 l v es hlt => rw [hcons]
  | case3 v es hlt => by_cases h : k = key <;> simp [hcons, h]
  | case4 l v es hlt hne ih =>
    by_cases hl : k = l
    · simp [hl, Ne.symm hne]
    · simp [hcons, hl, ih]

theorem get?_insert (m : SortedMap α) (key k : String) (value : α) :
    (m.insert key value).get? k = if k = key then some value else m.get? k := lookup_insertEntry key k value m.entries

/-- Of two insertions under one key the second counts. -/
theorem insert_insert (m : SortedMap α) (key : String) (v w : α) : (m.insert key v).insert key w = m.insert key w := by
  have hentries (es : List (String × α)) : insertEntry key w (insertEntry key v es) = insertEntry key w es := by
    fun_induction insertEntry key v es with
    | case1 => simp [insertEntry]
    | case2 l u es hlt => simp [insertEntry, hlt]
    | case3 u es hlt => simp [insertEntry]
    | case4 l u es hlt hne ih => rw [insertEntry, if_neg hlt, if_neg hne, ih, insertEntry, if_neg hlt, if_neg hne]
  exact SortedMap.ext (hentries m.entries)

theorem insertEntry_comm (hlt : a < b) (v w : α) (es : List (String × α)) :
    insertEntry a v (insertEntry b w es) = insertEntry b w (insertEntry a v es) := by
  have hnot : ¬b < a := lt_asymm hlt
  have hne : b ≠ a := ne_of_gt hlt
  induction es with
  | nil => simp [insertEntry, hlt, hnot, hne]
  | cons e es ih =>
    obtain ⟨k, u⟩ := e
    -- the place of `k` among the two keys; `a` comes before `b` wherever both are new
    rcases lt_trichotomy a k with hak | rfl | hka
    · rcases lt_trichotomy b k with hbk | rfl | hkb
      · simp [insertEntry, hlt, hnot, hne, hak, hbk]
      · simp [insertEntry, hlt, hnot, hne]
      · simp [insertEntry, hnot, hne, hak, lt_asymm hkb, ne_of_gt hkb]
    · simp [insertEntry, hnot, hne]
    · have hkb : k < b := hka.trans hlt
      simp [insertEntry, lt_asymm hka, ne_of_gt hka, lt_asymm hkb, ne_of_gt hkb, ih]

/-- Under different keys the order of insertions does not matter. -/
theorem insert_comm (m : SortedMap α) (hne : a ≠ b) (v w : α) :
    (m.insert a v).insert b w = (m.insert b w).insert a v := by
  rcases lt_or_gt_of_ne hne with hlt | hlt
  · exact SortedMap.ext (insertEntry_comm hlt v w m.entries).symm
  · exact SortedMap.ext (insertEntry_comm hlt w v m.entries)

end SortedMap

end SourceAudit
