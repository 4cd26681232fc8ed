import SourceAudit.Text.Blank
import SourceAudit.Text.Bytes

/-!
# Character boundaries

* `IsBoundary cs n` : the byte offset `n` stands between two characters of `cs`, or at one of its ends;
* `dropBytes?_eq_some_iff`, `takeBytes?_eq_some_iff`, `slice?_eq_some_iff` : what a cut by bytes gives;
* `slice?_isSome_iff`, `columnAt?_isSome_iff` : a cut succeeds exactly at boundaries in order;
* `IsEdge cs n` : the offset `n` is an end of a character other than a space;
* `trimStart_spec`, `dropEndWhile_spec` : what trimming removes and where it stops.
-/

namespace SourceAudit.Text

/-! ## Lengths -/

@[simp] theorem byteLength_nil : byteLength [] = 0 := rfl

@[simp] theorem byteLength_cons (c : Char) (cs : List Char) : byteLength (c :: cs) = c.utf8Size + byteLength cs := rfl

@[simp] theorem byteLength_append (a b : List Char) : byteLength (a ++ b) = byteLength a + byteLength b := by
  induction a with
  | nil => simp
  | cons c a ih => rw [List.cons_append, byteLength_cons, ih, byteLength_cons, Nat.add_assoc]

@[simp] theorem byteLength_reverse (cs : List Char) : byteLength cs.reverse = byteLength cs := by
  induction cs with
  | nil => rfl
  | cons c cs ih =>
    rw [List.reverse_cons, byteLength_append, ih, byteLength_cons, byteLength_nil, byteLength_cons]
    omega

theorem byteLength_replicate (n : Nat) (c : Char) : byteLength (List.replicate n c) = n * c.utf8Size := by
  induction n with
  | zero => simp
  | succ n ih => rw [List.replicate_succ, byteLength_cons, ih, Nat.succ_mul, Nat.add_comm]

theorem byteLength_pos {cs : List Char} (h : cs ≠ []) : 0 < byteLength cs := by
  cases cs with
  | nil => exact absurd rfl h
  | cons c cs =>
    rw [byteLength_cons]
    have := c.utf8Size_pos
    omega

theorem byteLength_eq_zero {cs : List Char} : byteLength cs = 0 ↔ cs = [] := by
  constructor
  · intro h
    cases cs with
    | nil => rfl
    | cons c cs => exact absurd (byteLength_pos (List.cons_ne_nil c cs)) (by omega)
  · rintro rfl
    rfl

theorem byteLength_toList (s : String) : byteLength s.toList = s.utf8ByteSize := by
  have hofList (cs : List Char) : (String.ofList cs).utf8ByteSize = byteLength cs := by
    induction cs with
    | nil => rfl
    | cons c cs ih =>
      rw [String.ofList_cons, String.utf8ByteSize_append, ih, String.utf8ByteSize_singleton, byteLength_cons]
  rw [← hofList, String.ofList_toList]

/-- Of two splits of a text, the one at the lower offset comes first. -/
theorem split_le {a b a' b' : List Char} (h : a ++ b = a' ++ b') (hn : byteLength a ≤ byteLength a') :
    ∃ m, a' = a ++ m ∧ b = m ++ b' := by
  rcases List.append_eq_append_iff.1 h with ⟨m, ha, hb⟩ | ⟨m, rfl, rfl⟩
  · exact ⟨m, ha, hb⟩
  · rw [byteLength_append] at hn
    cases m with
    | nil => exact ⟨[], by simp, by simp⟩
    | cons c m =>
      have := byteLength_pos (List.cons_ne_nil c m)
      omega

/-- Two splits of a text at the same offset are the same. -/
theorem split_eq {a b a' b' : List Char} (h : a ++ b = a' ++ b') (hn : byteLength a = byteLength a') :
    a = a' ∧ b = b' := by
  obtain ⟨m, rfl, rfl⟩ := split_le h (Nat.le_of_eq hn)
  rw [byteLength_append] at hn
  obtain rfl := byteLength_eq_zero.1 (show byteLength m = 0 by omega)
  exact ⟨(List.append_nil a).symm, rfl⟩

theorem split_lt {a b a' b' : List Char} {c : Char} (h : a' ++ c :: b' = a ++ b) (hn : byteLength a' < byteLength a) :
    ∃ m, a = a' ++ c :: m ∧ b' = m ++ b := by
  obtain ⟨m, rfl, hm⟩ := split_le h (Nat.le_of_lt hn)
  cases m with
  | nil => simp at hn
  | cons d m =>
    obtain ⟨rfl, rfl⟩ := List.cons.inj hm
    exact ⟨m, rfl, rfl⟩

theorem split_between {a w b a' b' : List Char} {c : Char} (h : a ++ (w ++ b) = a' ++ c :: b')
    (hle : byteLength a ≤ byteLength a') (hlt : byteLength a' < byteLength a + byteLength w) :
    ∃ u v, w = u ++ c :: v ∧ a' = a ++ u ∧ b' = v ++ b := by
  obtain ⟨u, rfl, hu⟩ := split_le h hle
  rw [byteLength_append] at hlt
  obtain ⟨v, rfl, rfl⟩ := split_lt hu.symm (by omega)
  exact ⟨u, v, rfl, rfl, rfl⟩

theorem mem_of_between {a w b a' b' : List Char} {c : Char} (h : a ++ (w ++ b) = a' ++ c :: b')
    (hle : byteLength a ≤ byteLength a') (hlt : byteLength a' < byteLength a + byteLength w) : c ∈ w := by
  obtain ⟨u, v, rfl, -, -⟩ := split_between h hle hlt
  simp

/-! ## Cuts -/

theorem dropBytes?_eq_some_iff {cs : List Char} {n : Nat} {rest : List Char} :
    dropBytes? cs n = some rest ↔ ∃ a, cs = a ++ rest ∧ byteLength a = n := by
  constructor
  · intro h
    fun_induction dropBytes? cs n with
    | case1 cs => exact ⟨[], by simpa using h, rfl⟩
    | case2 n => cases h
    | case3 c cs n hc ih =>
      obtain ⟨a, rfl, ha⟩ := ih h
      refine ⟨c :: a, rfl, ?_⟩
      rw [byteLength_cons]
      omega
    | case4 c cs n hc => cases h
  · rintro ⟨a, rfl, rfl⟩
    induction a with
    | nil => rw [byteLength_nil, dropBytes?.eq_1, List.nil_append]
    | cons c a ih =>
      have hc := c.utf8Size_pos
      obtain ⟨n, hn⟩ : ∃ n, c.utf8Size + byteLength a = n + 1 := ⟨c.utf8Size + byteLength a - 1, by omega⟩
      rw [byteLength_cons, hn, List.cons_append, dropBytes?, if_pos (by omega)]
      rw [show n + 1 - c.utf8Size = byteLength a by omega]
      exact ih

theorem takeBytes?_eq_some_iff {cs : List Char} {n : Nat} {part : List Char} :
    takeBytes? cs n = some part ↔ ∃ rest, cs = part ++ rest ∧ byteLength part = n := by
  constructor
  · intro h
    fun_induction takeBytes? cs n generalizing part with
    | case1 cs =>
      cases h
      exact ⟨cs, rfl, rfl⟩
    | case2 n => cases h
    | case3 c cs n hc ih =>
      obtain ⟨part, hp, rfl⟩ := Option.map_eq_some_iff.1 h
      obtain ⟨rest, rfl, hn⟩ := ih hp
      refine ⟨rest, rfl, ?_⟩
      rw [byteLength_cons]
      omega
    | case4 c cs n hc => cases h
  · rintro ⟨rest, rfl, rfl⟩
    induction part with
    | nil => rw [byteLength_nil, takeBytes?.eq_1]
    | cons c part ih =>
      have hc := c.utf8Size_pos
      obtain ⟨n, hn⟩ : ∃ n, c.utf8Size + byteLength part = n + 1 := ⟨c.utf8Size + byteLength part - 1, by omega⟩
      rw [byteLength_cons, hn, List.cons_append, takeBytes?, if_pos (by omega)]
      rw [show n + 1 - c.utf8Size = byteLength part by omega, ih, Option.map_some]

theorem slice?_eq_some_iff {cs : List Char} {start stop : Nat} {part : List Char} :
    slice? cs start stop = some part ↔
      ∃ a b, cs = a ++ (part ++ b) ∧ byteLength a = start ∧ start + byteLength part = stop := by
  unfold slice?
  constructor
  · intro h
    split at h
    · rename_i hle
      obtain ⟨rest, hd, ht⟩ := Option.bind_eq_some_iff.1 h
      obtain ⟨a, rfl, ha⟩ := dropBytes?_eq_some_iff.1 hd
      obtain ⟨b, rfl, hp⟩ := takeBytes?_eq_some_iff.1 ht
      exact ⟨a, b, rfl, ha, by omega⟩
    · cases h
  · rintro ⟨a, b, rfl, rfl, rfl⟩
    rw [if_pos (Nat.le_add_right _ _), dropBytes?_eq_some_iff.2 ⟨a, rfl, rfl⟩, Option.bind_some]
    exact takeBytes?_eq_some_iff.2 ⟨b, rfl, by omega⟩

/-! ## Boundaries -/

/-- The offset stands between two characters of a text, or at one of its ends. -/
def IsBoundary (cs : List Char) (n : Nat) : Prop := ∃ a b, cs = a ++ b ∧ byteLength a = n

theorem isBoundary_zero (cs : List Char) : IsBoundary cs 0 := ⟨[], cs, rfl, rfl⟩

theorem isBoundary_byteLength (cs : List Char) : IsBoundary cs (byteLength cs) := ⟨cs, [], by simp, rfl⟩

theorem IsBoundary.shift {cs : List Char} {n : Nat} (h : IsBoundary cs n) (lead : List Char) :
    IsBoundary (lead ++ cs) (byteLength lead + n) := by
  obtain ⟨a, b, rfl, rfl⟩ := h
  exact ⟨lead ++ a, b, by simp, by simp⟩

/-- A cut succeeds exactly between two boundaries in order. -/
theorem slice?_isSome_iff {cs : List Char} {start stop : Nat} :
    (slice? cs start stop).isSome ↔ start ≤ stop ∧ IsBoundary cs start ∧ IsBoundary cs stop := by
  rw [Option.isSome_iff_exists]
  constructor
  · rintro ⟨part, h⟩
    obtain ⟨a, b, rfl, rfl, rfl⟩ := slice?_eq_some_iff.1 h
    exact ⟨Nat.le_add_right _ _, ⟨a, part ++ b, rfl, rfl⟩, ⟨a ++ part, b, by simp, by simp⟩⟩
  · rintro ⟨hle, ⟨a, b, rfl, rfl⟩, ⟨a', b', h, rfl⟩⟩
    obtain ⟨part, rfl, rfl⟩ := split_le h hle
    exact ⟨part, slice?_eq_some_iff.2 ⟨a, b', rfl, rfl, by simp⟩⟩

theorem columnAt?_isSome_iff {cs : List Char} {n : Nat} : (columnAt? cs n).isSome ↔ IsBoundary cs n := by
  unfold columnAt?
  rw [Option.isSome_map, Option.isSome_iff_exists]
  constructor
  · rintro ⟨part, h⟩
    obtain ⟨rest, rfl, hn⟩ := takeBytes?_eq_some_iff.1 h
    exact ⟨part, rest, rfl, hn⟩
  · rintro ⟨a, b, rfl, hn⟩
    exact ⟨a, takeBytes?_eq_some_iff.2 ⟨b, rfl, hn⟩⟩

/-! ## Edges -/

/-- The offset is an end of a character of the text other than a space. -/
def IsEdge (cs : List Char) (n : Nat) : Prop :=
  ∃ a c b, cs = a ++ c :: b ∧ c ≠ ' ' ∧ (byteLength a = n ∨ byteLength a + c.utf8Size = n)

theorem ne_space_of_not_blank {c : Char} (h : isBlank c = false) : c ≠ ' ' := by
  rintro rfl
  exact absurd h (by decide)

theorem IsEdge.isBoundary {cs : List Char} {n : Nat} (h : IsEdge cs n) : IsBoundary cs n := by
  obtain ⟨a, c, b, rfl, -, rfl | rfl⟩ := h
  · exact ⟨a, c :: b, rfl, rfl⟩
  · exact ⟨a ++ [c], b, by simp, by simp⟩

theorem IsEdge.shift {cs : List Char} {n : Nat} (h : IsEdge cs n) (lead tail : List Char) :
    IsEdge (lead ++ (cs ++ tail)) (byteLength lead + n) := by
  obtain ⟨a, c, b, rfl, hc, hn⟩ := h
  refine ⟨lead ++ a, c, b ++ tail, by simp, hc, ?_⟩
  rw [byteLength_append]
  omega

/-- The last character of a text that is not blank is the same however the text is split. -/
theorem last_not_blank_unique {a b a' b' : List Char} {c d : Char} (h : a ++ c :: b = a' ++ d :: b')
    (hc : isBlank c = false) (hd : isBlank d = false) (hb : ∀ x ∈ b, isBlank x = true)
    (hb' : ∀ x ∈ b', isBlank x = true) :
    c = d := by
  rcases List.append_eq_append_iff.1 h with ⟨e, -, he⟩ | ⟨e, -, he⟩
  · rcases List.cons_eq_append_iff.1 he with ⟨-, h⟩ | ⟨e, -, rfl⟩
    · exact (List.cons.inj h).1.symm
    · have := hb d (by simp)
      simp [hd] at this
  · rcases List.cons_eq_append_iff.1 he with ⟨-, h⟩ | ⟨e, -, rfl⟩
    · exact (List.cons.inj h).1
    · have := hb' c (by simp)
      simp [hc] at this

/-! ## Trimming -/

theorem trimStart_spec (cs : List Char) :
    ∃ lead, cs = lead ++ trimStart cs ∧ (∀ c ∈ lead, isBlank c = true) ∧
      ∀ c rest, trimStart cs = c :: rest → isBlank c = false := by
  refine ⟨cs.takeWhile isBlank, List.takeWhile_append_dropWhile.symm, ?_, ?_⟩
  · exact List.all_eq_true.1 List.all_takeWhile
  · intro c rest h
    have hd := List.head?_dropWhile_not isBlank cs
    rw [show cs.dropWhile isBlank = c :: rest from h] at hd
    exact hd

theorem dropEndWhile_spec (p : Char → Bool) (cs : List Char) :
    ∃ tail, cs = dropEndWhile p cs ++ tail ∧ (∀ c ∈ tail, p c = true) ∧
      ∀ a c, dropEndWhile p cs = a ++ [c] → p c = false := by
  refine ⟨(cs.reverse.takeWhile p).reverse, ?_, ?_, ?_⟩
  · rw [dropEndWhile, ← List.reverse_append, List.takeWhile_append_dropWhile, List.reverse_reverse]
  · intro c hc
    exact List.all_eq_true.1 List.all_takeWhile c (List.mem_reverse.1 hc)
  · intro a c h
    have hd := List.head?_dropWhile_not p cs.reverse
    rw [dropEndWhile, List.reverse_eq_iff] at h
    rw [h, List.reverse_append] at hd
    exact hd

theorem dropEndWhile_prefix (p : Char → Bool) (cs : List Char) : dropEndWhile p cs <+: cs := by
  obtain ⟨tail, hcs, -, -⟩ := dropEndWhile_spec p cs
  exact ⟨tail, hcs.symm⟩

theorem byteLength_le_trimEnd {cs a b : List Char} {c : Char} (h : cs = a ++ c :: b) (hc : isBlank c = false) :
    byteLength a + c.utf8Size ≤ byteLength (trimEnd cs) := by
  obtain ⟨tail, hcs, htail, -⟩ := dropEndWhile_spec isBlank cs
  have hmem : c ∉ tail := fun hm => by simp [htail c hm] at hc
  rcases List.append_eq_append_iff.1 (h.symm.trans hcs) with ⟨e, ht, he⟩ | ⟨e, -, he⟩
  · rcases List.cons_eq_append_iff.1 he with ⟨-, rfl⟩ | ⟨e, rfl, -⟩
    · exact absurd List.mem_cons_self hmem
    · rw [trimEnd, ht, byteLength_append, byteLength_cons]
      omega
  · exact absurd (he ▸ by simp) hmem

/-- What is left after trimming the end is empty or ends with a character that is not blank. -/
theorem isEdge_trimEnd {cs : List Char} (h : trimEnd cs ≠ []) : IsEdge cs (byteLength (trimEnd cs)) := by
  obtain ⟨tail, hcs, -, hlast⟩ := dropEndWhile_spec isBlank cs
  obtain ⟨a, c, hac⟩ := (List.eq_nil_or_concat _).resolve_left h
  rw [List.concat_eq_append] at hac
  refine ⟨a, c, tail, ?_, ne_space_of_not_blank (hlast a c hac), .inr ?_⟩
  · calc cs = dropEndWhile isBlank cs ++ tail := hcs
      _ = a ++ [c] ++ tail := by rw [show dropEndWhile isBlank cs = a ++ [c] from hac]
      _ = a ++ c :: tail := by simp
  · rw [hac]
    simp

end SourceAudit.Text
