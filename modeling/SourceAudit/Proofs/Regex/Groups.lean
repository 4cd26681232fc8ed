import SourceAudit.Proofs.Regex.Path

/-!
# Groups of a match

* `Takes.lookup_eq` : a path leaves the slots alone that its expression does not mark;
* `takes_group_lookup` : the ends of a group, in the slots after it;
* `grouped r` : every mark of `r` is an end of a group that does not mark its own ends inside;
* `Matches.group_span` : a group of a match of a grouped expression goes from one boundary to a later one.
-/

namespace SourceAudit.Regex

open Text (byteLength IsBoundary)

variable {r a b : Regex} {p q : Cursor} {i : Nat}

/-! ## Slots -/

theorem lookup_put_self (slots : Slots) (slot position : Nat) :
    (slots.put slot position).lookup slot = some position := by
  rw [Slots.put, List.lookup_cons_self]

theorem lookup_put_ne (slots : Slots) {slot other : Nat} (position : Nat) (h : other ≠ slot) :
    (slots.put slot position).lookup other = slots.lookup other := by
  rw [Slots.put, List.lookup_cons, beq_false_of_ne h]
  show (slots.filter (·.1 ≠ slot)).lookup other = slots.lookup other
  induction slots with
  | nil => rfl
  | cons s slots ih =>
    obtain ⟨key, value⟩ := s
    by_cases hk : key = slot
    · subst hk
      rw [List.filter_cons_of_neg (by simp), List.lookup_cons, beq_false_of_ne h]
      exact ih
    · rw [List.filter_cons_of_pos (by simpa using hk), List.lookup_cons, List.lookup_cons]
      split
      · rfl
      · exact ih

/-- A path keeps what is in the slots that its expression does not mark. -/
theorem Takes.lookup_eq (h : Takes r p q) (slot : Nat) (hs : slot ∉ r.marks) :
    q.slots.lookup slot = p.slots.lookup slot := by
  refine h.along (P := fun p q => q.slots.lookup slot = p.slots.lookup slot) (fun _ => rfl) ?_ (fun _ _ _ _ => rfl) ?_
  · intro p m q hm hq
    exact hq.trans hm
  · intro p s hm
    exact lookup_put_ne _ _ fun he => hs (he ▸ hm)

def Cursor.Bounded (p : Cursor) : Prop :=
  ∀ slot position, p.slots.lookup slot = some position → IsBoundary p.text position

theorem Takes.bounded (h : Takes r p q) (hp : p.Bounded) : q.Bounded := by
  revert hp
  refine h.along (P := fun p q => p.Bounded → q.Bounded) (fun _ => id) ?_ ?_ ?_
  · intro p m q hm hq hp
    exact hq (hm hp)
  · intro p c rest hright hp slot position hl
    have ht : Cursor.text ⟨c :: p.left, rest, p.slots⟩ = p.text := by
      rw [Cursor.text, Cursor.text, hright, List.reverse_cons, List.append_assoc, List.singleton_append]
    rw [ht]
    exact hp slot position hl
  · intro p s _ hp slot position hl
    show IsBoundary p.text position
    by_cases he : slot = s
    · subst he
      rw [Cursor.note, lookup_put_self] at hl
      cases hl
      exact p.isBoundary_offset
    · rw [Cursor.note, lookup_put_ne _ _ he] at hl
      exact hp slot position hl

/-! ## Groups -/

theorem takes_group_iff : Takes (group i a) p q ↔ ∃ m, Takes a (p.note (2 * i)) m ∧ q = m.note (2 * i + 1) := by
  constructor
  · rintro ⟨_, rfl, m, hm, rfl⟩
    exact ⟨m, hm, rfl⟩
  · rintro ⟨m, hm, rfl⟩
    exact ⟨_, rfl, m, hm, rfl⟩

/-- The ends of a group that is not marked again, in the slots after it. -/
theorem takes_group_lookup (h : Takes (group i a) p q) (ha : 2 * i ∉ a.marks) :
    ∃ m, Takes a (p.note (2 * i)) m ∧ q.left = m.left ∧ q.right = m.right ∧
      q.slots.lookup (2 * i) = some p.offset ∧ q.slots.lookup (2 * i + 1) = some m.offset := by
  obtain ⟨m, hm, rfl⟩ := takes_group_iff.1 h
  refine ⟨m, hm, rfl, rfl, ?_, lookup_put_self _ _ _⟩
  rw [Cursor.note, lookup_put_ne _ _ (by omega), hm.lookup_eq _ ha]
  exact lookup_put_self _ _ _

/-- Every mark is an end of a group that does not mark its own ends inside. -/
def grouped : Regex → Bool
  | seq (mark i) (seq a (mark j)) =>
    i % 2 == 0 && j == i + 1 && !a.marks.contains i && !a.marks.contains j && a.grouped
  | mark _ => false
  | seq a b => a.grouped && b.grouped
  | alt a b => a.grouped && b.grouped
  | rep a _ _ _ => a.grouped
  | again a _ => a.grouped
  | empty | set _ | look _ => true

/-- The ends of a group are in order, where both are remembered. -/
def Slots.OrderedAt (slots : Slots) (i : Nat) : Prop :=
  ∀ start stop, slots.lookup (2 * i) = some start → slots.lookup (2 * i + 1) = some stop → start ≤ stop

theorem orderedAt_congr {s t : Slots} (h : s.lookup (2 * i) = t.lookup (2 * i))
    (h' : s.lookup (2 * i + 1) = t.lookup (2 * i + 1)) (hs : s.OrderedAt i) : t.OrderedAt i := by
  intro start stop hl hr
  exact hs start stop (h.trans hl) (h'.trans hr)

theorem Takes.orderedAt (h : Takes r p q) (hr : r.grouped = true) (hp : p.slots.OrderedAt i) : q.slots.OrderedAt i := by
  fun_induction grouped r generalizing p q with
  | case1 j a k ih =>
    simp only [Bool.and_eq_true, beq_iff_eq, Bool.not_eq_true', List.contains_eq_mem, decide_eq_false_iff_not] at hr
    obtain ⟨⟨⟨⟨heven, rfl⟩, hj⟩, hk⟩, ha⟩ := hr
    obtain ⟨j, rfl⟩ : ∃ n, j = 2 * n := ⟨j / 2, by omega⟩
    obtain ⟨m, hm, -, -, hstart, hstop⟩ := takes_group_lookup h hj
    by_cases hij : i = j
    · subst hij
      intro start stop hl hr
      cases hstart.symm.trans hl
      cases hstop.symm.trans hr
      exact hm.offset_le
    · obtain ⟨m, hm, rfl⟩ := takes_group_iff.1 h
      -- the ends of the other group are touched by neither mark
      have hnote (c : Cursor) (k : Nat) (hk : k = 2 * j ∨ k = 2 * j + 1) :
          (c.note k).slots.OrderedAt i ↔ c.slots.OrderedAt i := by
        have h₁ : (c.note k).slots.lookup (2 * i) = c.slots.lookup (2 * i) := lookup_put_ne _ _ (by omega)
        have h₂ : (c.note k).slots.lookup (2 * i + 1) = c.slots.lookup (2 * i + 1) := lookup_put_ne _ _ (by omega)
        exact ⟨orderedAt_congr h₁ h₂, orderedAt_congr h₁.symm h₂.symm⟩
      exact (hnote m _ (.inr rfl)).2 (ih hm ha ((hnote p _ (.inl rfl)).2 hp))
  | case2 => cases hr
  | case3 a b hn iha ihb =>
    obtain ⟨ha, hb⟩ := Bool.and_eq_true_iff.1 hr
    obtain ⟨m, hm, hq⟩ := h
    exact ihb hq hb (iha hm ha hp)
  | case4 a b iha ihb =>
    obtain ⟨ha, hb⟩ := Bool.and_eq_true_iff.1 hr
    rcases h with h | h
    · exact iha h ha hp
    · exact ihb h hb hp
  | case5 a min max greedy ih =>
    obtain ⟨k, -, -, h⟩ := h
    exact h.along (P := fun p q => p.slots.OrderedAt i → q.slots.OrderedAt i) (fun _ => id)
      (fun p m q hm hq hp => hq (ih hm hr hp)) hp
  | case6 a greedy ih =>
    obtain ⟨k, h⟩ := h
    exact h.along (P := fun p q => p.slots.OrderedAt i → q.slots.OrderedAt i) (fun _ => id)
      (fun p m q hm hq hp => hq (ih hm hr hp)) hp
  | case7 => exact h ▸ hp
  | case8 chars =>
    obtain ⟨c, rest, -, -, rfl⟩ := h
    exact hp
  | case9 assertion => exact h.2 ▸ hp

theorem Matches.group_span {cs : List Char} {m : Match} (h : Matches r cs m) (hr : r.grouped = true) {start stop : Nat}
    (hg : m.group? i = some (start, stop)) : start ≤ stop ∧ IsBoundary cs start ∧ IsBoundary cs stop := by
  obtain ⟨p, q, rfl, hp, ht, rfl⟩ := h
  rw [Match.group?] at hg
  split at hg
  · rename_i s e hs he
    cases hg
    have hb := ht.bounded fun slot position hl => by simp [hp] at hl
    rw [Cursor.Bounded, ht.text_eq] at hb
    refine ⟨ht.orderedAt hr ?_ _ _ hs he, hb _ _ hs, hb _ _ he⟩
    intro start stop hl
    simp [hp] at hl
  · cases hg

end SourceAudit.Regex
