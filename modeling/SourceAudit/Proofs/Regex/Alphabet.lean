import SourceAudit.Proofs.Regex.Path

/-!
# The characters of a path

* `Regex.sets r` : the character sets of an expression;
* `Takes.alphabet` : every character on a path is in one of them;
* `Takes.transfer` : a path goes over to another text if each of its steps does;
* `takes_literal_iff`, `takes_startText`, `takes_endText`, `takes_opt` : the paths of a text, of its ends and of an
  optional part.
-/

namespace SourceAudit.Regex

variable {r a : Regex} {p q : Cursor}

def sets : Regex → List CharSet
  | set chars => [chars]
  | seq a b => a.sets ++ b.sets
  | alt a b => a.sets ++ b.sets
  | rep a _ _ _ => a.sets
  | again a _ => a.sets
  | empty | look _ | mark _ => []

def Spells (P : Char → Prop) (p q : Cursor) : Prop :=
  ∃ w, p.right = w ++ q.right ∧ q.left = w.reverse ++ p.left ∧ ∀ c ∈ w, P c

section Spells

variable {P : Char → Prop} {m : Cursor}

theorem Spells.refl (p : Cursor) : Spells P p p := ⟨[], rfl, rfl, nofun⟩

theorem Spells.trans (h : Spells P p m) (h' : Spells P m q) : Spells P p q := by
  obtain ⟨v, hv, hv', hvp⟩ := h
  obtain ⟨w, hw, hw', hwp⟩ := h'
  refine ⟨v ++ w, ?_, ?_, List.forall_mem_append.mpr ⟨hvp, hwp⟩⟩
  · rw [hv, hw, List.append_assoc]
  · rw [hw', hv', List.reverse_append, List.append_assoc]

/-- What holds of all characters in the sets of an expression holds of the characters on its paths. -/
theorem Takes.alphabet (h : Takes r p q) (hr : ∀ chars ∈ r.sets, ∀ c, chars.mem c = true → P c) : Spells P p q := by
  induction r generalizing p q with
  | empty => exact h ▸ .refl _
  | set chars =>
    obtain ⟨c, rest, hp, hc, rfl⟩ := h
    exact ⟨[c], hp, rfl, List.forall_mem_singleton.mpr (hr chars (List.mem_singleton_self chars) c hc)⟩
  | look assertion => exact h.2 ▸ .refl _
  | mark slot => exact h ▸ ⟨[], rfl, rfl, nofun⟩
  | seq a b iha ihb =>
    obtain ⟨m, ha, hb⟩ := h
    exact (iha ha fun s hs => hr s (List.mem_append_left _ hs)).trans
      (ihb hb fun s hs => hr s (List.mem_append_right _ hs))
  | alt a b iha ihb =>
    rcases h with h | h
    · exact iha h fun s hs => hr s (List.mem_append_left _ hs)
    · exact ihb h fun s hs => hr s (List.mem_append_right _ hs)
  | rep a min max greedy ih =>
    obtain ⟨k, -, -, h⟩ := h
    exact h.along Spells.refl fun p m q hm hq => (ih hm hr).trans hq
  | again a greedy ih =>
    obtain ⟨k, h⟩ := h
    exact h.along Spells.refl fun p m q hm hq => (ih hm hr).trans hq

end Spells

/-! ## Paths in two texts -/

def looks : Regex → List Look
  | look assertion => [assertion]
  | seq a b => a.looks ++ b.looks
  | alt a b => a.looks ++ b.looks
  | rep a _ _ _ => a.looks
  | again a _ => a.looks
  | empty | set _ | mark _ => []

/-- The steps of an expression from a cursor in one text can be made from every related cursor in another text. -/
structure Follows (S : Cursor → Cursor → Prop) (r : Regex) : Prop where
  char : ∀ chars ∈ r.sets, ∀ p p' c rest, S p p' → p.right = c :: rest → chars.mem c = true →
    ∃ d rest', p'.right = d :: rest' ∧ chars.mem d = true ∧
    S ⟨c :: p.left, rest, p.slots⟩ ⟨d :: p'.left, rest', p'.slots⟩
  look : ∀ assertion ∈ r.looks, ∀ p p', S p p' → assertion.holds p.left.head? p.right.head? = true →
    assertion.holds p'.left.head? p'.right.head? = true
  note : ∀ p p' slot, S p p' → S (p.note slot) (p'.note slot)

section Transfer

variable {S : Cursor → Cursor → Prop} {p' : Cursor}

theorem Follows.mono {b : Regex} (h : Follows S b) (hsets : ∀ chars ∈ a.sets, chars ∈ b.sets)
    (hlooks : ∀ assertion ∈ a.looks, assertion ∈ b.looks) : Follows S a :=
  ⟨fun chars hc => h.char chars (hsets chars hc), fun assertion ha => h.look assertion (hlooks assertion ha), h.note⟩

theorem Rounds.transfer {R : Cursor → Cursor → Prop}
    (step : ∀ p q p', R p q → S p p' → ∃ q', R p' q' ∧ S q q') {k : Nat} (h : Rounds R k p q) (hp : S p p') :
    ∃ q', Rounds R k p' q' ∧ S q q' := by
  induction k generalizing p p' with
  | zero => exact ⟨p', rfl, h ▸ hp⟩
  | succ k ih =>
    obtain ⟨m, hm, hq⟩ := h
    obtain ⟨m', hm', hS⟩ := step p m p' hm hp
    obtain ⟨q', hq', hS⟩ := ih hq hS
    exact ⟨q', ⟨m', hm', hq'⟩, hS⟩

/-- A path goes over to another text if each of its steps does. -/
theorem Takes.transfer (h : Takes r p q) (hr : Follows S r) (hp : S p p') : ∃ q', Takes r p' q' ∧ S q q' := by
  induction r generalizing p q p' with
  | empty => exact ⟨p', rfl, h ▸ hp⟩
  | set chars =>
    obtain ⟨c, rest, hright, hc, rfl⟩ := h
    obtain ⟨d, rest', hright', hd, hS⟩ := hr.char chars (List.mem_singleton_self _) p p' c rest hp hright hc
    exact ⟨_, ⟨d, rest', hright', hd, rfl⟩, hS⟩
  | look assertion =>
    obtain ⟨hholds, rfl⟩ := h
    exact ⟨p', ⟨hr.look assertion (List.mem_singleton_self _) _ p' hp hholds, rfl⟩, hp⟩
  | mark slot => exact ⟨p'.note slot, rfl, h ▸ hr.note p p' slot hp⟩
  | seq a b iha ihb =>
    obtain ⟨m, ha, hb⟩ := h
    obtain ⟨m', ha', hS⟩ := iha ha (hr.mono (fun _ => List.mem_append_left _) fun _ => List.mem_append_left _) hp
    obtain ⟨q', hb', hS⟩ := ihb hb (hr.mono (fun _ => List.mem_append_right _) fun _ => List.mem_append_right _) hS
    exact ⟨q', ⟨m', ha', hb'⟩, hS⟩
  | alt a b iha ihb =>
    rcases h with h | h
    · obtain ⟨q', hq', hS⟩ := iha h (hr.mono (fun _ => List.mem_append_left _) fun _ => List.mem_append_left _) hp
      exact ⟨q', .inl hq', hS⟩
    · obtain ⟨q', hq', hS⟩ := ihb h (hr.mono (fun _ => List.mem_append_right _) fun _ => List.mem_append_right _) hp
      exact ⟨q', .inr hq', hS⟩
  | rep a min max greedy ih =>
    obtain ⟨k, hmin, hmax, h⟩ := h
    obtain ⟨q', hq', hS⟩ := h.transfer (fun _ _ _ h => ih h (hr.mono (fun _ => id) fun _ => id)) hp
    exact ⟨q', ⟨k, hmin, hmax, hq'⟩, hS⟩
  | again a greedy ih =>
    obtain ⟨k, h⟩ := h
    obtain ⟨q', hq', hS⟩ := h.transfer (fun _ _ _ h => ih h (hr.mono (fun _ => id) fun _ => id)) hp
    exact ⟨q', ⟨k, hq'⟩, hS⟩

end Transfer

/-! ## Simple expressions -/

theorem mem_single {c d : Char} : (CharSet.single d).mem c = true ↔ c = d := by
  rw [CharSet.single, CharSet.mem, Bool.and_eq_true, decide_eq_true_iff, decide_eq_true_iff]
  constructor
  · intro h
    exact Char.toNat_inj.1 (by omega)
  · rintro rfl
    exact ⟨Nat.le_refl _, Nat.le_refl _⟩

theorem takes_seqs_cons {rs : List Regex} : Takes (seqs (r :: rs)) p q ↔ ∃ m, Takes r p m ∧ Takes (seqs rs) m q := by
  cases rs with
  | nil =>
    constructor
    · intro h
      exact ⟨q, h, rfl⟩
    · rintro ⟨m, h, rfl⟩
      exact h
  | cons _ _ => exact Iff.rfl

theorem takes_seqs_append (rs : List Regex) {rs' : List Regex} :
    Takes (seqs (rs ++ rs')) p q ↔ ∃ m, Takes (seqs rs) p m ∧ Takes (seqs rs') m q := by
  induction rs generalizing p with
  | nil =>
    constructor
    · intro h
      exact ⟨p, rfl, h⟩
    · rintro ⟨m, rfl, h⟩
      exact h
  | cons r rs ih =>
    simp only [List.cons_append, takes_seqs_cons, ih]
    constructor
    · rintro ⟨m, hm, n, hn, hq⟩
      exact ⟨n, ⟨m, hm, hn⟩, hq⟩
    · rintro ⟨n, ⟨m, hm, hn⟩, hq⟩
      exact ⟨m, hm, n, hn, hq⟩

theorem takes_literal_iff {cs : List Char} :
    Takes (literal cs) p q ↔ ∃ rest, p.right = cs ++ rest ∧ q = ⟨cs.reverse ++ p.left, rest, p.slots⟩ := by
  induction cs generalizing p with
  | nil =>
    constructor
    · intro h
      exact ⟨p.right, rfl, h⟩
    · rintro ⟨rest, hp, rfl⟩
      show _ = p
      rw [← show p.right = rest from hp]
      rfl
  | cons c cs ih =>
    rw [literal, List.map_cons, takes_seqs_cons, List.reverse_cons, List.append_assoc]
    constructor
    · rintro ⟨m, ⟨d, rest, hp, hd, rfl⟩, hq⟩
      obtain rfl := mem_single.mp hd
      obtain ⟨rest', hrest, rfl⟩ := ih.mp hq
      exact ⟨rest', by rw [hp, List.cons_append, ← hrest], rfl⟩
    · rintro ⟨rest, hp, rfl⟩
      exact ⟨_, ⟨c, cs ++ rest, hp, mem_single.mpr rfl, rfl⟩, ih.mpr ⟨rest, rfl, rfl⟩⟩

theorem takes_literal {cs : List Char} (h : Takes (literal cs) p q) : p.right = cs ++ q.right := by
  obtain ⟨rest, hp, rfl⟩ := takes_literal_iff.mp h
  exact hp

theorem takes_startText (h : Takes (look .startText) p q) : p.left = [] ∧ q = p :=
  ⟨List.head?_eq_none_iff.mp (Option.isNone_iff_eq_none.mp h.1), h.2⟩

theorem takes_endText (h : Takes (look .endText) p q) : p.right = [] :=
  List.head?_eq_none_iff.mp (Option.isNone_iff_eq_none.mp h.1)

/-- An optional part is left out or taken once. -/
theorem takes_opt (h : Takes (opt a) p q) : q = p ∨ Takes a p q := by
  obtain ⟨k, -, hmax, h⟩ := h
  match k, hmax 1 rfl, h with
  | 0, _, h => exact .inl h
  | 1, _, ⟨m, hm, hq⟩ =>
    obtain rfl : q = m := hq
    exact .inr hm

end SourceAudit.Regex
