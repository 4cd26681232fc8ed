/-!
# Sets and maps in key order

`StringSet` holds strings without repetition, `SortedMap α` values under string keys, one for each key. Both are lists
in ascending order and carry the proof of it.

Strings are ordered by code point, which is also the order of their UTF-8 bytes.
-/

namespace SourceAudit

/-- Adds a string to an ascending list, unless it is there already. -/
def insertSorted (s : String) : List String → List String
  | [] => [s]
  | t :: ts => if s < t then s :: t :: ts else if s = t then t :: ts else t :: insertSorted s ts

theorem mem_insertSorted (s x : String) (ss : List String) : x ∈ insertSorted s ss ↔ x = s ∨ x ∈ ss := by
  fun_induction insertSorted s ss with
  | case1 => simp
  | case2 t ts hlt => exact List.mem_cons
  | case3 ts hlt => simp
  | case4 t ts hlt hne ih =>
    rw [List.mem_cons, ih, List.mem_cons]
    exact or_left_comm

theorem pairwise_insertSorted (s : String) {ss : List String} (h : ss.Pairwise (· < ·)) :
    (insertSorted s ss).Pairwise (· < ·) := by
  fun_induction insertSorted s ss with
  | case1 => exact List.pairwise_singleton _ _
  | case2 t ts hlt =>
    refine List.pairwise_cons.mpr ⟨fun x hx => ?_, h⟩
    rcases List.mem_cons.mp hx with rfl | hx
    · exact hlt
    · exact String.lt_trans hlt (List.rel_of_pairwise_cons h hx)
  | case3 ts hlt => exact h
  | case4 t ts hlt hne ih =>
    refine List.pairwise_cons.mpr ⟨fun x hx => ?_, ih h.of_cons⟩
    rcases (mem_insertSorted s x ts).mp hx with rfl | hx
    · exact String.not_le.mp fun hle => hne (String.le_antisymm hle (String.not_lt.mp hlt))
    · exact List.rel_of_pairwise_cons h hx

/-- Strings without repetition, in ascending order. -/
@[ext]
structure StringSet where
  members : List String
  ascending : members.Pairwise (· < ·)
  deriving DecidableEq, Repr

namespace StringSet

def empty : StringSet := ⟨[], .nil⟩

def insert (set : StringSet) (s : String) : StringSet :=
  ⟨insertSorted s set.members, pairwise_insertSorted s set.ascending⟩

end StringSet

def sortedSet (ss : List String) : StringSet := ss.foldl .insert .empty

/-- Values under string keys, in ascending order of the keys. -/
@[ext]
structure SortedMap (α : Type) where
  entries : List (String × α)
  ascending : entries.Pairwise fun d e => d.1 < e.1
  deriving DecidableEq, Repr

namespace SortedMap

variable {α : Type}

instance : EmptyCollection (SortedMap α) := ⟨⟨[], .nil⟩⟩

instance : Inhabited (SortedMap α) := ⟨{}⟩

/-- Puts an entry at its place in an ascending list, in place of an entry with the same key. -/
def insertEntry (key : String) (value : α) : List (String × α) → List (String × α)
  | [] => [(key, value)]
  | (k, v) :: es =>
    if key < k then (key, value) :: (k, v) :: es
    else if key = k then (key, value) :: es
    else (k, v) :: insertEntry key value es

theorem keys_insertEntry (key : String) (value : α) (es : List (String × α)) :
    (insertEntry key value es).map (·.1) = insertSorted key (es.map (·.1)) := by
  fun_induction insertEntry key value es with
  | case1 => rfl
  | case2 k v es hlt => rw [List.map_cons, List.map_cons, insertSorted, if_pos hlt]
  | case3 v es hlt => rw [List.map_cons, List.map_cons, insertSorted, if_neg hlt, if_pos rfl]
  | case4 k v es hlt hne ih => rw [List.map_cons, List.map_cons, insertSorted, if_neg hlt, if_neg hne, ih]

theorem pairwise_insertEntry (key : String) (value : α) {es : List (String × α)}
    (h : es.Pairwise fun d e => d.1 < e.1) :
    (insertEntry key value es).Pairwise fun d e => d.1 < e.1 := by
  apply List.pairwise_map.mp
  rw [keys_insertEntry]
  exact pairwise_insertSorted key (List.pairwise_map.mpr h)

def insert (m : SortedMap α) (key : String) (value : α) : SortedMap α :=
  ⟨insertEntry key value m.entries, pairwise_insertEntry key value m.ascending⟩

theorem entries_insert (m : SortedMap α) (key : String) (value : α) :
    (m.insert key value).entries = insertEntry key value m.entries := rfl

def get? (m : SortedMap α) (key : String) : Option α := m.entries.lookup key

/-- The map of a list of entries; the last of several entries with one key counts. -/
def ofList (es : List (String × α)) : SortedMap α :=
  es.foldl (fun m e => m.insert e.1 e.2) {}

def keys (m : SortedMap α) : List String := m.entries.map (·.1)

end SortedMap

end SourceAudit
