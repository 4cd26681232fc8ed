import SourceAudit.Regex.Match
import SourceAudit.Proofs.Text.Boundary

/-!
# Paths of a regular expression

The meaning of an expression as a relation between two places of a text, and the proof that matching keeps to it.

* `Cursor` : a place in a text, with the positions remembered on the way to it;
* `Takes r p q` : the expression `r` leads from `p` to `q`;
* `Takes.moves`, `Takes.text_eq`, `Takes.offset_le` : a path goes forward in the same text;
* `Outcome.Sound` : an outcome at a place keeps to a relation; one lemma for each way outcomes are put together;
* `advance_sound`, `run_sound` : a step and a whole run keep to `Takes`;
* `Matches r cs m`, `find?_matches`, `findAll_matches` : what is found is the trace of a path.
-/

namespace SourceAudit.Regex

open Text (byteLength)

/-- A place in a text: what stands before it, backwards, what follows it, and the positions remembered so far. -/
structure Cursor where
  left : List Char
  right : List Char
  slots : Slots

namespace Cursor

def text (p : Cursor) : List Char := p.left.reverse ++ p.right

def offset (p : Cursor) : Nat := byteLength p.left

def note (p : Cursor) (slot : Nat) : Cursor := { p with slots := p.slots.put slot p.offset }

theorem isBoundary_offset (p : Cursor) : Text.IsBoundary p.text p.offset :=
  ⟨p.left.reverse, p.right, rfl, Text.byteLength_reverse _⟩

end Cursor

/-! ## Paths -/

/-- A relation, `k` times in a row. -/
def Rounds (R : Cursor → Cursor → Prop) : Nat → Cursor → Cursor → Prop
  | 0, p, q => q = p
  | k + 1, p, q => ∃ m, R p m ∧ Rounds R k m q

/-- The expression leads from one cursor to another. -/
def Takes : Regex → Cursor → Cursor → Prop
  | empty, p, q => q = p
  | set chars, p, q => ∃ c rest, p.right = c :: rest ∧ chars.mem c = true ∧ q = ⟨c :: p.left, rest, p.slots⟩
  | look assertion, p, q => assertion.holds p.left.head? p.right.head? = true ∧ q = p
  | mark slot, p, q => q = p.note slot
  | seq a b, p, q => ∃ m, Takes a p m ∧ Takes b m q
  | alt a b, p, q => Takes a p q ∨ Takes b p q
  -- fewer than `min` rounds are allowed only where `max` is smaller still
  | rep a min max _, p, q =>
    ∃ k, (min ≤ k ∨ max = some k) ∧ (∀ m, max = some m → k ≤ m) ∧ Rounds (Takes a) k p q
  | again a _, p, q => ∃ k, Rounds (Takes a) k p q

variable {r a b : Regex} {p q m : Cursor}

/-- What holds of no steps and is added up along steps holds of any number of rounds. -/
theorem Rounds.along {R P : Cursor → Cursor → Prop} (refl : ∀ p, P p p) (trans : ∀ p m q, R p m → P m q → P p q)
    {k : Nat} (h : Rounds R k p q) : P p q := by
  induction k generalizing p with
  | zero => exact h ▸ refl p
  | succ k ih =>
    obtain ⟨m, hm, hq⟩ := h
    exact trans p m q hm (ih hq)

/-- The slots an expression may write to. -/
def marks : Regex → List Nat
  | mark slot => [slot]
  | seq a b => a.marks ++ b.marks
  | alt a b => a.marks ++ b.marks
  | rep a _ _ _ => a.marks
  | again a _ => a.marks
  | _ => []

/-- What holds of each single step and is added up along steps holds of every path. -/
theorem Takes.along {P : Cursor → Cursor → Prop} (h : Takes r p q) (refl : ∀ p, P p p)
    (trans : ∀ p m q, P p m → P m q → P p q)
    (char : ∀ p c rest, p.right = c :: rest → P p ⟨c :: p.left, rest, p.slots⟩)
    (note : ∀ p, ∀ slot ∈ r.marks, P p (p.note slot)) : P p q := by
  induction r generalizing p q with
  | empty => exact h ▸ refl p
  | set chars =>
    obtain ⟨c, rest, hp, -, rfl⟩ := h
    exact char p c rest hp
  | look assertion => exact h.2 ▸ refl p
  | mark slot => exact h ▸ note p slot (List.mem_singleton.2 rfl)
  | seq a b iha ihb =>
    obtain ⟨m, ha, hb⟩ := h
    exact trans p m q (iha ha fun p slot hs => note p slot (List.mem_append_left _ hs))
      (ihb hb fun p slot hs => note p slot (List.mem_append_right _ hs))
  | alt a b iha ihb =>
    rcases h with h | h
    · exact iha h fun p slot hs => note p slot (List.mem_append_left _ hs)
    · exact ihb h fun p slot hs => note p slot (List.mem_append_right _ hs)
  | rep a min max greedy ih =>
    obtain ⟨k, -, -, h⟩ := h
    exact h.along refl fun p m q hm hq => trans p m q (ih hm note) hq
  | again a greedy ih =>
    obtain ⟨k, h⟩ := h
    exact h.along refl fun p m q hm hq => trans p m q (ih hm note) hq

theorem Takes.moves (h : Takes r p q) : ∃ w, p.right = w ++ q.right ∧ q.left = w.reverse ++ p.left := by
  refine h.along (P := fun p q => ∃ w, p.right = w ++ q.right ∧ q.left = w.reverse ++ p.left)
    (fun p => ⟨[], rfl, rfl⟩) ?_ ?_ (fun p slot _ => ⟨[], rfl, rfl⟩)
  · rintro p m q ⟨v, hv, hv'⟩ ⟨w, hw, hw'⟩
    refine ⟨v ++ w, ?_, ?_⟩
    · rw [hv, hw, List.append_assoc]
    · rw [hw', hv', List.reverse_append, List.append_assoc]
  · intro p c rest hp
    exact ⟨[c], hp, rfl⟩

theorem Takes.text_eq (h : Takes r p q) : q.text = p.text := by
  obtain ⟨w, hp, hq⟩ := h.moves
  rw [Cursor.text, Cursor.text, hp, hq, List.reverse_append, List.reverse_reverse, List.append_assoc]

theorem Takes.offset_le (h : Takes r p q) : p.offset ≤ q.offset := by
  obtain ⟨w, -, hq⟩ := h.moves
  rw [Cursor.offset, Cursor.offset, hq, Text.byteLength_append]
  omega

theorem takes_andThen_iff : Takes (a.andThen b) p q ↔ ∃ m, Takes a p m ∧ Takes b m q := by
  cases a with
  | empty => exact ⟨fun h => ⟨p, rfl, h⟩, fun ⟨m, hm, h⟩ => hm ▸ h⟩
  | _ => exact Iff.rfl

theorem takes_rep_zero (greedy : Bool) {max : Option Nat} : Takes (rep a 0 max greedy) p p :=
  ⟨0, .inl (Nat.le_refl 0), fun _ _ => Nat.zero_le _, rfl⟩

/-- One more round in front of a repetition. -/
theorem takes_rep_succ {min min' : Nat} {max : Option Nat} {greedy : Bool} (hmin : min' ≤ min + 1)
    (hm : Takes a p m) (hq : Takes (rep a min max greedy) m q) : Takes (rep a min' (max.map (· + 1)) greedy) p q := by
  obtain ⟨k, hk, hmax, hq⟩ := hq
  refine ⟨k + 1, ?_, ?_, m, hm, hq⟩
  · rcases hk with hk | rfl
    · exact .inl (by omega)
    · exact .inr rfl
  · intro n hn
    obtain ⟨n, rfl, rfl⟩ := Option.map_eq_some_iff.1 hn
    exact Nat.succ_le_succ (hmax n rfl)

/-- One round in front of the further rounds of a loop. -/
theorem takes_rep_again {min : Nat} {greedy : Bool} (hmin : min ≤ 1) (hm : Takes a p m)
    (hq : Takes (again a greedy) m q) : Takes (rep a min none greedy) p q := by
  obtain ⟨k, hq⟩ := hq
  exact ⟨k + 1, .inl (by omega), nofun, m, hm, hq⟩

/-! ## Outcomes -/

/-- What a thread does after the next character keeps to a relation. -/
def Thread.Leads (p : Cursor) (R : Cursor → Cursor → Prop) (t : Thread) : Prop :=
  ∀ c rest q, p.right = c :: rest → Takes t.rest ⟨c :: p.left, rest, t.slots⟩ q → R p q

/-- What an outcome allows keeps to a relation: to stop at the cursor, and to go on after the next character. -/
structure Outcome.Sound (o : Outcome) (p : Cursor) (R : Cursor → Cursor → Prop) : Prop where
  stop : ∀ preferred slots fallback, o = .stops preferred slots fallback → R p { p with slots }
  go : ∀ t ∈ o.threads, t.Leads p R

namespace Outcome

variable {o o' : Outcome} {R S : Cursor → Cursor → Prop}

theorem sound_moves {ts : List Thread} (h : ∀ t ∈ ts, t.Leads p R) : Sound (.moves ts) p R := ⟨nofun, h⟩

theorem sound_stops {preferred fallback : List Thread} {slots : Slots} (hs : R p { p with slots })
    (h : ∀ t ∈ preferred, t.Leads p R) (h' : ∀ t ∈ fallback, t.Leads p R) :
    Sound (.stops preferred slots fallback) p R := by
  refine ⟨?_, ?_⟩
  · rintro _ _ _ ⟨⟩
    exact hs
  · intro t ht
    exact (List.mem_append.1 ht).elim (h t) (h' t)

theorem sound_stop {slots : Slots} (hs : R p { p with slots }) : Sound (.stops [] slots []) p R :=
  sound_stops hs nofun nofun

theorem Sound.mono (h : Sound o p R) (hR : ∀ q, R p q → S p q) : Sound o p S :=
  ⟨fun _ _ _ ho => hR _ (h.stop _ _ _ ho), fun t ht c rest q hp hq => hR q (h.go t ht c rest q hp hq)⟩

theorem Sound.orElse (h : Sound o p R) (h' : Sound o' p R) : Sound (o.orElse o') p R := by
  cases o with
  | moves ts =>
    cases o' with
    | moves us => exact sound_moves fun t ht => (List.mem_append.1 ht).elim (h.go t) (h'.go t)
    | stops preferred slots fallback =>
      refine sound_stops (h'.stop _ _ _ rfl) ?_ fun t ht => h'.go t (List.mem_append_right _ ht)
      exact fun t ht => (List.mem_append.1 ht).elim (h.go t) fun ht => h'.go t (List.mem_append_left _ ht)
  | stops preferred slots fallback =>
    refine sound_stops (h.stop _ _ _ rfl) (fun t ht => h.go t (List.mem_append_left _ ht)) ?_
    exact fun t ht => (List.mem_append.1 ht).elim (fun ht => h.go t (List.mem_append_right _ ht)) (h'.go t)

/-- Threads that go on with `b` keep to `S` if they kept to `R` and `b` leads on from `R` to `S`. -/
theorem leads_followed {ts : List Thread} (h : ∀ t ∈ ts, t.Leads p R) (hb : ∀ m q, R p m → Takes b m q → S p q) :
    ∀ t ∈ followed b ts, t.Leads p S := by
  intro t ht
  obtain ⟨u, hu, rfl⟩ := List.mem_map.1 ht
  intro c rest q hp hq
  obtain ⟨m, hm, hq⟩ := takes_andThen_iff.1 hq
  exact hb m q (h u hu c rest m hp hm) hq

theorem Sound.andThen {next : Slots → Outcome} (h : Sound o p R) (hb : ∀ m q, R p m → Takes b m q → S p q)
    (hn : ∀ slots, Sound (next slots) { p with slots } (Takes b)) : Sound (o.andThen b next) p S := by
  cases o with
  | moves ts => exact sound_moves (leads_followed h.go hb)
  | stops preferred slots fallback =>
    have hs : R p { p with slots } := h.stop _ _ _ rfl
    have hp := leads_followed (fun t ht => h.go t (List.mem_append_left _ ht)) hb
    have hf := leads_followed (fun t ht => h.go t (List.mem_append_right _ ht)) hb
    have hgo : ∀ t ∈ (next slots).threads, t.Leads p S := fun t ht c rest q hr hq =>
      hb _ q hs ((hn slots).go t ht c rest q hr hq)
    cases ho : next slots with
    | moves us =>
      rw [ho] at hgo
      simp only [Outcome.andThen, ho]
      refine sound_moves fun t ht => ?_
      rcases List.mem_append.1 ht with ht | ht
      · exact (List.mem_append.1 ht).elim (hp t) (hgo t)
      · exact hf t ht
    | stops us slots' vs =>
      rw [ho] at hgo
      simp only [Outcome.andThen, ho]
      refine sound_stops (hb _ _ hs ((hn slots).stop _ _ _ ho)) ?_ ?_
      · exact fun t ht => (List.mem_append.1 ht).elim (hp t) fun ht => hgo t (List.mem_append_left _ ht)
      · exact fun t ht => (List.mem_append.1 ht).elim (fun ht => hgo t (List.mem_append_right _ ht)) (hf t)

theorem Sound.firstRound (h : Sound o p R) (h₁ : ∀ q, R p q → S p q) (hb : ∀ m q, R p m → Takes b m q → S p q) :
    Sound (o.firstRound b) p S := by
  cases o with
  | moves ts => exact sound_moves (leads_followed h.go hb)
  | stops preferred slots fallback =>
    exact sound_stops (h₁ _ (h.stop _ _ _ rfl)) (leads_followed (fun t ht => h.go t (List.mem_append_left _ ht)) hb)
      (leads_followed (fun t ht => h.go t (List.mem_append_right _ ht)) hb)

theorem Sound.laterRound (h : Sound o p R) (hb : ∀ m q, R p m → Takes b m q → S p q) : Sound (o.laterRound b) p S :=
  sound_moves (leads_followed h.go hb)

theorem Sound.orStop {greedy : Bool} (h : Sound o p R) (hp : R p p) : Sound (o.orStop greedy p.slots) p R := by
  unfold Outcome.orStop
  split
  · exact h.orElse (sound_stop hp)
  · exact (sound_stop hp).orElse h

end Outcome

/-! ## Steps -/

section Rep

variable {round : Slots → Outcome} {greedy : Bool} (hr : ∀ slots, (round slots).Sound { p with slots } (Takes a))
include hr

theorem firstRound_sound {min : Nat} (hmin : min ≤ 1) (slots : Slots) :
    ((round slots).firstRound (again a greedy)).Sound { p with slots } (Takes (rep a min none greedy)) :=
  (hr slots).firstRound (fun _ hq => takes_rep_again hmin hq ⟨0, rfl⟩) fun _ _ hm hq => takes_rep_again hmin hm hq

theorem advanceOpen_sound (min : Nat) (slots : Slots) :
    (advanceOpen round a greedy min slots).Sound { p with slots } (Takes (rep a min none greedy)) := by
  induction min generalizing slots with
  | zero => exact (firstRound_sound hr (Nat.zero_le 1) slots).orStop (takes_rep_zero greedy)
  | succ min ih =>
    cases min with
    | zero => exact firstRound_sound hr (Nat.le_refl 1) slots
    | succ min => exact (hr slots).andThen (fun m q => takes_rep_succ (Nat.le_refl _)) ih

theorem advanceUpTo_sound (max min : Nat) (slots : Slots) :
    (advanceUpTo round a greedy max min slots).Sound { p with slots } (Takes (rep a min (some max) greedy)) := by
  induction max generalizing min slots with
  | zero => exact Outcome.sound_stop ⟨0, .inr rfl, by simp, rfl⟩
  | succ max ih =>
    cases min with
    | zero =>
      exact ((hr slots).andThen (fun m q => takes_rep_succ (Nat.zero_le 1)) (ih 0)).orStop (takes_rep_zero greedy)
    | succ min => exact (hr slots).andThen (fun m q => takes_rep_succ (Nat.le_refl _)) (ih min)

theorem advanceRep_sound (min : Nat) (max : Option Nat) (slots : Slots) :
    (advanceRep round a greedy min max slots).Sound { p with slots } (Takes (rep a min max greedy)) := by
  cases max with
  | none => exact advanceOpen_sound hr min slots
  | some max => exact advanceUpTo_sound hr max min slots

end Rep

/-- What an expression can do at a cursor keeps to its paths. -/
theorem advance_sound (r : Regex) (p : Cursor) :
    (advance p.left.head? p.right.head? p.offset r p.slots).Sound p (Takes r) := by
  induction r generalizing p with
  | empty => exact Outcome.sound_stop rfl
  | set chars =>
    unfold advance
    cases hp : p.right with
    | nil => exact Outcome.sound_moves nofun
    | cons c rest =>
      by_cases hc : chars.mem c = true
      · simp only [List.head?_cons, hc, if_true]
        refine Outcome.sound_moves fun t ht d rest' q hd hq => ?_
        obtain rfl := List.mem_singleton.1 ht
        obtain ⟨rfl, rfl⟩ := List.cons.inj (hp.symm.trans hd)
        exact ⟨c, rest, hp, hc, hq⟩
      · simp only [List.head?_cons, hc]
        exact Outcome.sound_moves nofun
  | look assertion =>
    unfold advance
    split
    · rename_i hl
      exact Outcome.sound_stop ⟨hl, rfl⟩
    · exact Outcome.sound_moves nofun
  | mark slot => exact Outcome.sound_stop rfl
  | seq a b iha ihb => exact (iha p).andThen (fun m q hm hq => ⟨m, hm, hq⟩) fun slots => ihb { p with slots }
  | alt a b iha ihb => exact ((iha p).mono fun q => .inl).orElse ((ihb p).mono fun q => .inr)
  | rep a min max greedy ih => exact advanceRep_sound (fun slots => ih { p with slots }) min max p.slots
  | again a greedy ih =>
    refine ((ih p).laterRound fun m q hm hq => ?_).orStop ⟨0, rfl⟩
    obtain ⟨k, hk⟩ := hq
    exact ⟨k + 1, m, hm, hk⟩

/-! ## Runs -/

/-- Every path of a thread that starts at a cursor ends in a goal. -/
def Thread.Reaches (p : Cursor) (goal : Cursor → Prop) (t : Thread) : Prop :=
  ∀ q, Takes t.rest { p with slots := t.slots } q → goal q

theorem stepThreads_sound {goal : Cursor → Prop} {threads next : List Thread} {hit : Option Slots}
    (ht : ∀ t ∈ threads, t.Reaches p goal)
    (h : stepThreads p.left.head? p.right.head? p.offset threads = (next, hit)) :
    (∀ slots, hit = some slots → goal { p with slots }) ∧ ∀ t ∈ next, t.Leads p fun _ => goal := by
  induction threads generalizing next hit with
  | nil =>
    cases h
    exact ⟨nofun, nofun⟩
  | cons t ts ih =>
    have hs := (advance_sound t.rest { p with slots := t.slots }).mono (S := fun _ => goal)
      (ht t List.mem_cons_self)
    rw [stepThreads] at h
    split at h
    · rename_i us hus
      cases h
      obtain ⟨hhit, hnext⟩ := ih (fun u hu => ht u (List.mem_cons_of_mem _ hu)) rfl
      refine ⟨hhit, fun u hu => ?_⟩
      rcases List.mem_append.1 hu with hu | hu
      · refine hs.go u ?_
        exact hus ▸ hu
      · exact hnext u hu
    · rename_i preferred slots fallback hst
      cases h
      refine ⟨?_, fun u hu => ?_⟩
      · rintro _ ⟨⟩
        exact hs.stop _ _ _ hst
      · refine hs.go u ?_
        exact hst ▸ List.mem_append_left _ hu

theorem mem_of_mem_distinct {seen : List Regex} {threads : List Thread} {t : Thread} (h : t ∈ distinct seen threads) :
    t ∈ threads := by
  fun_induction distinct seen threads with
  | case1 => cases h
  | case2 seen u us hu ih => exact List.mem_cons_of_mem _ (ih h)
  | case3 seen u us hu ih =>
    rcases List.mem_cons.1 h with rfl | h
    · exact List.mem_cons_self
    · exact List.mem_cons_of_mem _ (ih h)

/-- A place and remembered positions that a goal allows. -/
def Reported (goal : Cursor → Prop) (found : Nat × Slots) : Prop := ∃ q, goal q ∧ found = (q.offset, q.slots)

theorem reported_or {goal : Cursor → Prop} {left cs : List Char} {best : Option (Nat × Slots)} {hit : Option Slots}
    (hb : ∀ b, best = some b → Reported goal b) (hh : ∀ slots, hit = some slots → goal ⟨left, cs, slots⟩) :
    ∀ b, (hit.map fun slots => (byteLength left, slots)).or best = some b → Reported goal b := by
  intro b h
  rcases Option.or_eq_some_iff.1 h with h | ⟨-, h⟩
  · obtain ⟨slots, hs, rfl⟩ := Option.map_eq_some_iff.1 h
    exact ⟨_, hh slots hs, rfl⟩
  · exact hb b h

/-- A run whose threads keep to a goal reports what the goal allows. -/
theorem run_sound {goal : Cursor → Prop} {threads : List Thread} {left : List Char} {best : Option (Nat × Slots)}
    {cs : List Char} {found : Nat × Slots} (ht : ∀ t ∈ threads, t.Reaches ⟨left, cs, []⟩ goal)
    (hb : ∀ b, best = some b → Reported goal b) (h : run threads left.head? (byteLength left) best cs = some found) :
    Reported goal found := by
  induction cs generalizing threads left best with
  | nil =>
    rw [run] at h
    obtain ⟨hhit, -⟩ := stepThreads_sound (p := ⟨left, [], []⟩) ht rfl
    exact reported_or hb hhit found h
  | cons c cs ih =>
    rw [run] at h
    generalize hst : stepThreads left.head? (some c) (byteLength left) threads = result at h
    obtain ⟨next, hit⟩ := result
    obtain ⟨hhit, hnext⟩ := stepThreads_sound (p := ⟨left, c :: cs, []⟩) ht hst
    have hb' := reported_or hb hhit
    dsimp only at h
    split at h
    · exact hb' found h
    · have hgo : ∀ t ∈ distinct [] next, t.Reaches ⟨c :: left, cs, []⟩ goal := fun t ht q hq =>
        hnext t (mem_of_mem_distinct ht) c cs q rfl hq
      refine ih hgo hb' ?_
      rw [List.head?_cons, Text.byteLength_cons, Nat.add_comm]
      exact h

/-! ## Matches -/

/-- The match is the trace of a path in the text. -/
def Matches (r : Regex) (cs : List Char) (m : Match) : Prop :=
  ∃ p q : Cursor, p.text = cs ∧ p.slots = [] ∧ Takes r p q ∧ m = ⟨p.offset, q.offset, q.slots⟩

theorem matchAt?_matches {left cs : List Char} {m : Match}
    (h : r.matchAt? left.head? (byteLength left) cs = some m) : Matches r (left.reverse ++ cs) m := by
  obtain ⟨⟨stop, slots⟩, hrun, rfl⟩ := Option.map_eq_some_iff.1 h
  have ht : ∀ t ∈ [Thread.mk r []], t.Reaches ⟨left, cs, []⟩ (Takes r ⟨left, cs, []⟩) := by simp [Thread.Reaches]
  obtain ⟨q, hq, he⟩ := run_sound ht (by simp) hrun
  cases he
  exact ⟨⟨left, cs, []⟩, q, rfl, rfl, hq, rfl⟩

theorem findFrom?_matches {left cs : List Char} {m : Match}
    (h : r.findFrom? left.head? (byteLength left) cs = some m) : Matches r (left.reverse ++ cs) m := by
  induction cs generalizing left with
  | nil =>
    rw [findFrom?] at h
    split at h
    · rename_i m' hm
      cases h
      exact matchAt?_matches hm
    · cases h
  | cons c cs ih =>
    rw [findFrom?] at h
    split at h
    · rename_i m' hm
      cases h
      exact matchAt?_matches hm
    · rw [Nat.add_comm] at h
      have := @ih (c :: left) h
      rwa [List.reverse_cons, List.append_assoc] at this

theorem find?_matches {cs : List Char} {m : Match} (h : r.find? cs = some m) : Matches r cs m :=
  @findFrom?_matches r [] cs m h

theorem findAllFrom_matches {left cs : List Char} {last : Option Nat} {m : Match}
    (h : m ∈ r.findAllFrom left.head? (byteLength left) last cs) : Matches r (left.reverse ++ cs) m := by
  have hhit {left cs : List Char} {last : Option Nat}
      (h : m ∈ (if last.any (byteLength left < ·) then none
        else (r.matchAt? left.head? (byteLength left) cs).filter fun m => m.start < m.stop || last !=
        some m.stop).toList) :
      Matches r (left.reverse ++ cs) m := by
    rw [Option.mem_toList] at h
    split at h
    · cases h
    · exact matchAt?_matches (Option.filter_eq_some_iff.1 h).1
  induction cs generalizing left last with
  | nil =>
    rw [findAllFrom, List.append_nil] at h
    exact hhit h
  | cons c cs ih =>
    rw [findAllFrom] at h
    rcases List.mem_append.1 h with h | h
    · exact hhit h
    · rw [Nat.add_comm] at h
      have := @ih (c :: left) _ h
      rwa [List.reverse_cons, List.append_assoc] at this

theorem findAll_matches {cs : List Char} {m : Match} (h : m ∈ r.findAll cs) : Matches r cs m :=
  @findAllFrom_matches r [] cs none m h

end SourceAudit.Regex
