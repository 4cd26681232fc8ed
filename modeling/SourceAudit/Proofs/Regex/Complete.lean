import SourceAudit.Proofs.Regex.Path

/-!
# Every path is found

Matching keeps to the paths of an expression (`find?_matches`); here is the converse. Remembered positions have no say
in where a path leads, so paths are taken between places only.

* `Goes r p q` : the expression `r` leads from the place of `p` to the place of `q`, whatever is remembered;
* `Outcome.Complete` : an outcome at a place allows all paths of a relation; one lemma for each way outcomes are put
  together;
* `advance_complete`, `run_complete` : a step and a whole run miss no path;
* `find?_isSome_iff` : something is found exactly if there is a path.
-/

namespace SourceAudit.Regex

open Text (byteLength)

variable {r a b : Regex} {p q m : Cursor}

/-! ## Places -/

/-- What is remembered has no say in where a path leads. -/
theorem Takes.reslot (h : Takes r p q) (slots : Slots) :
    ∃ slots', Takes r { p with slots } { q with slots := slots' } := by
  have hrounds {R : Cursor → Cursor → Prop}
      (hR : ∀ {p q}, R p q → ∀ slots, ∃ slots', R { p with slots } { q with slots := slots' }) {k : Nat} {p q : Cursor}
      (h : Rounds R k p q) (slots : Slots) : ∃ slots', Rounds R k { p with slots } { q with slots := slots' } := by
    induction k generalizing p slots with
    | zero => exact ⟨slots, by rw [show q = p from h]; rfl⟩
    | succ k ih =>
      obtain ⟨m, hm, hq⟩ := h
      obtain ⟨slots₁, hm'⟩ := hR hm slots
      obtain ⟨slots₂, hq'⟩ := ih hq slots₁
      exact ⟨slots₂, _, hm', hq'⟩
  induction r generalizing p q slots with
  | empty => exact ⟨slots, by rw [show q = p from h]; rfl⟩
  | set chars =>
    obtain ⟨c, rest, hp, hc, rfl⟩ := h
    exact ⟨slots, c, rest, hp, hc, rfl⟩
  | look assertion =>
    obtain ⟨hl, rfl⟩ := h
    exact ⟨slots, hl, rfl⟩
  | mark slot =>
    obtain rfl : q = p.note slot := h
    exact ⟨_, rfl⟩
  | seq a b iha ihb =>
    obtain ⟨m, ha, hb⟩ := h
    obtain ⟨slots₁, ha'⟩ := iha ha slots
    obtain ⟨slots₂, hb'⟩ := ihb hb slots₁
    exact ⟨slots₂, _, ha', hb'⟩
  | alt a b iha ihb =>
    rcases h with h | h
    · obtain ⟨slots', h'⟩ := iha h slots
      exact ⟨slots', .inl h'⟩
    · obtain ⟨slots', h'⟩ := ihb h slots
      exact ⟨slots', .inr h'⟩
  | rep a min max greedy ih =>
    obtain ⟨k, hk, hmax, h⟩ := h
    obtain ⟨slots', h'⟩ := hrounds ih h slots
    exact ⟨slots', k, hk, hmax, h'⟩
  | again a greedy ih =>
    obtain ⟨k, h⟩ := h
    obtain ⟨slots', h'⟩ := hrounds ih h slots
    exact ⟨slots', k, h'⟩

/-- The expression leads from one place to another. -/
def Goes (r : Regex) (p q : Cursor) : Prop := ∃ slots slots', Takes r { p with slots } { q with slots := slots' }

theorem Takes.goes (h : Takes r p q) : Goes r p q := ⟨p.slots, q.slots, h⟩

theorem Goes.takes (h : Goes r p q) (slots : Slots) :
    ∃ slots', Takes r { p with slots } { q with slots := slots' } := by
  obtain ⟨_, _, h⟩ := h
  exact h.reslot slots

theorem goes_seq (ha : Goes a p m) (hb : Goes b m q) : Goes (seq a b) p q := by
  obtain ⟨slots, slots₁, ha⟩ := ha
  obtain ⟨slots₂, hb⟩ := hb.takes slots₁
  exact ⟨slots, slots₂, _, ha, hb⟩

theorem goes_andThen (ha : Goes a p m) (hb : Goes b m q) : Goes (a.andThen b) p q := by
  obtain ⟨slots, slots', h⟩ := goes_seq ha hb
  exact ⟨slots, slots', takes_andThen_iff.mpr h⟩

/-- Where a path leads does not depend on more than the place where it starts. -/
theorem Goes.of_place (h : Goes r m q) (hleft : m.left = p.left) (hright : m.right = p.right) : Goes r p q := by
  obtain ⟨slots, slots', h⟩ := h
  rw [hleft, hright] at h
  exact ⟨slots, slots', h⟩

/-- Of two paths that come back to where they started, the first stays there. -/
theorem Goes.stays (ha : Goes a p m) (hb : Goes b m q) (h : q.right = p.right) :
    m.left = p.left ∧ m.right = p.right := by
  obtain ⟨_, _, ha⟩ := ha
  obtain ⟨_, _, hb⟩ := hb
  obtain ⟨v, hv, hv'⟩ := ha.moves
  obtain ⟨w, hw, -⟩ := hb.moves
  dsimp only at hv hv' hw
  have hlen := congrArg List.length hv
  rw [hw, h, List.length_append, List.length_append] at hlen
  obtain rfl : v = [] := List.length_eq_zero_iff.mp (by omega)
  exact ⟨hv', hv.symm⟩

theorem Goes.stays_of_right (h : Goes a p q) (hr : q.right = p.right) : q.left = p.left ∧ q.right = p.right :=
  h.stays (⟨q.slots, q.slots, rfl⟩ : Goes empty q q) hr

/-- A path that leads away takes a character. -/
theorem Goes.exists_next (h : Goes a p q) (hr : q.right ≠ p.right) : ∃ c rest, p.right = c :: rest := by
  obtain ⟨_, _, h⟩ := h
  obtain ⟨w, hw, -⟩ := h.moves
  cases w with
  | nil => exact absurd hw.symm hr
  | cons c w => exact ⟨c, _, hw⟩

/-- The expression leads from one place to another in `k` rounds. -/
def Tours (a : Regex) (k : Nat) (p q : Cursor) : Prop :=
  ∃ slots slots', Rounds (Takes a) k { p with slots } { q with slots := slots' }

theorem tours_succ {k : Nat} (h : Tours a (k + 1) p q) : ∃ m, Goes a p m ∧ Tours a k m q := by
  obtain ⟨slots, slots', m, hm, hq⟩ := h
  exact ⟨m, ⟨slots, m.slots, hm⟩, m.slots, slots', hq⟩

theorem goes_rep_iff {min : Nat} {max : Option Nat} {greedy : Bool} :
    Goes (rep a min max greedy) p q ↔ ∃ k, (min ≤ k ∨ max = some k) ∧ (∀ n, max = some n → k ≤ n) ∧ Tours a k p q := by
  constructor
  · rintro ⟨slots, slots', k, hk, hmax, h⟩
    exact ⟨k, hk, hmax, slots, slots', h⟩
  · rintro ⟨k, hk, hmax, slots, slots', h⟩
    exact ⟨slots, slots', k, hk, hmax, h⟩

theorem goes_again_iff {greedy : Bool} : Goes (again a greedy) p q ↔ ∃ k, Tours a k p q := by
  constructor
  · rintro ⟨slots, slots', k, h⟩
    exact ⟨k, slots, slots', h⟩
  · rintro ⟨k, slots, slots', h⟩
    exact ⟨slots, slots', k, h⟩

theorem tours_zero (h : Tours a 0 p q) : q.right = p.right := by
  obtain ⟨slots, slots', h⟩ := h
  exact (Cursor.mk.inj h).2.1

/-- A path through rounds that leads away has a first round that does. -/
theorem exists_moving_round (greedy : Bool) {k : Nat} (h : Tours a k p q) (hq : q.right ≠ p.right) :
    ∃ m, Goes a p m ∧ m.right ≠ p.right ∧ Goes (again a greedy) m q := by
  induction k generalizing p with
  | zero => exact absurd (tours_zero h) hq
  | succ k ih =>
    obtain ⟨m, hm, hk⟩ := tours_succ h
    by_cases hmr : m.right = p.right
    · obtain ⟨hleft, hright⟩ := hm.stays_of_right hmr
      obtain ⟨n, hn, hnr, hnq⟩ := ih hk (hmr ▸ hq)
      exact ⟨n, hn.of_place hleft hright, hmr ▸ hnr, hnq⟩
    · exact ⟨m, hm, hmr, goes_again_iff.mpr ⟨k, hk⟩⟩

/-! ## Outcomes -/

namespace Outcome

def CanStop : Outcome → Prop
  | moves _ => False
  | stops _ _ _ => True

/-- The outcome allows all paths to the places of a relation: to stop at the cursor, and to go on after the next
character. -/
structure Complete (o : Outcome) (p : Cursor) (R : Cursor → Prop) : Prop where
  stop : ∀ q, R q → q.right = p.right → o.CanStop
  go : ∀ q c rest, R q → p.right = c :: rest → q.right ≠ p.right →
    ∃ t ∈ o.threads, Goes t.rest ⟨c :: p.left, rest, []⟩ q

variable {o o' : Outcome} {R S : Cursor → Prop}

theorem mem_threads_orElse {t : Thread} : t ∈ (o.orElse o').threads ↔ t ∈ o.threads ∨ t ∈ o'.threads := by
  cases o <;> cases o' <;> simp [orElse, threads, or_assoc]

theorem canStop_orElse : (o.orElse o').CanStop ↔ o.CanStop ∨ o'.CanStop := by
  cases o <;> cases o' <;> simp [orElse, CanStop]

theorem Complete.orElse (h : Complete o p R) (h' : Complete o' p S) : Complete (o.orElse o') p fun q => R q ∨ S q := by
  constructor
  · rintro q (hq | hq) hr
    · exact canStop_orElse.mpr (.inl (h.stop q hq hr))
    · exact canStop_orElse.mpr (.inr (h'.stop q hq hr))
  · rintro q c rest (hq | hq) hp hr
    · obtain ⟨t, ht, hg⟩ := h.go q c rest hq hp hr
      exact ⟨t, mem_threads_orElse.mpr (.inl ht), hg⟩
    · obtain ⟨t, ht, hg⟩ := h'.go q c rest hq hp hr
      exact ⟨t, mem_threads_orElse.mpr (.inr ht), hg⟩

theorem Complete.mono (h : Complete o p R) (hR : ∀ q, S q → R q) : Complete o p S :=
  ⟨fun q hq => h.stop q (hR q hq), fun q c rest hq => h.go q c rest (hR q hq)⟩

/-- Stopping is always allowed, and what goes on is allowed as before. -/
theorem Complete.orStop {greedy : Bool} {slots : Slots} (h : ∀ q c rest, R q → p.right = c :: rest → q.right ≠ p.right →
    ∃ t ∈ o.threads, Goes t.rest ⟨c :: p.left, rest, []⟩ q) : Complete (o.orStop greedy slots) p R := by
  unfold Outcome.orStop
  constructor
  · intro q _ _
    split
    · exact canStop_orElse.mpr (.inr trivial)
    · exact canStop_orElse.mpr (.inl trivial)
  · intro q c rest hq hp hr
    obtain ⟨t, ht, hg⟩ := h q c rest hq hp hr
    refine ⟨t, ?_, hg⟩
    split
    · exact mem_threads_orElse.mpr (.inl ht)
    · exact mem_threads_orElse.mpr (.inr ht)

theorem mem_followed {ts : List Thread} {t : Thread} (ht : t ∈ ts) (hm : Goes t.rest p m) (hq : Goes b m q) :
    ∃ u ∈ followed b ts, Goes u.rest p q :=
  ⟨{ t with rest := t.rest.andThen b }, List.mem_map.mpr ⟨t, ht, rfl⟩, goes_andThen hm hq⟩

theorem threads_andThen {next : Slots → Outcome} :
    (∀ t ∈ followed b o.threads, t ∈ (o.andThen b next).threads) ∧
      ∀ preferred slots fallback, o = stops preferred slots fallback →
        (∀ t ∈ (next slots).threads, t ∈ (o.andThen b next).threads) ∧
        ((next slots).CanStop → (o.andThen b next).CanStop) := by
  cases o with
  | moves ts =>
    refine ⟨fun t ht => ht, ?_⟩
    rintro _ _ _ ⟨⟩
  | stops preferred slots fallback =>
    cases hn : next slots with
    | moves us =>
      simp only [andThen, hn, threads, followed, List.map_append]
      refine ⟨fun t ht => ?_, ?_⟩
      · simp only [List.mem_append] at ht ⊢
        exact ht.elim (fun h => .inl (.inl h)) .inr
      · rintro _ _ _ ⟨⟩
        rw [hn]
        exact ⟨fun t ht => List.mem_append_left _ (List.mem_append_right _ ht), False.elim⟩
    | stops us slots' vs =>
      simp only [andThen, hn, threads, followed, List.map_append]
      refine ⟨fun t ht => ?_, ?_⟩
      · simp only [List.mem_append] at ht ⊢
        exact ht.elim (fun h => .inl (.inl h)) fun h => .inr (.inr h)
      · rintro _ _ _ ⟨⟩
        rw [hn]
        refine ⟨fun t ht => ?_, fun _ => trivial⟩
        simp only [List.mem_append] at ht ⊢
        exact ht.elim (fun h => .inl (.inr h)) fun h => .inr (.inl h)

theorem Complete.andThen {next : Slots → Outcome} (h : Complete o p (Goes a p))
    (hn : ∀ slots, Complete (next slots) p (Goes b p)) :
    Complete (o.andThen b next) p fun q => ∃ m, Goes a p m ∧ Goes b m q := by
  obtain ⟨hfollowed, hnext⟩ := @threads_andThen b o next
  -- where the first part stays, the outcome is one that stops, and the second part starts at the same place
  have hstops {m : Cursor} (ha : Goes a p m) (hr : m.right = p.right) :
      ∃ preferred slots fallback, o = stops preferred slots fallback := by
    have := h.stop m ha hr
    cases o with
    | moves ts => cases this
    | stops preferred slots fallback => exact ⟨_, _, _, rfl⟩
  constructor
  · rintro q ⟨m, ha, hb⟩ hr
    obtain ⟨hleft, hright⟩ := ha.stays hb hr
    obtain ⟨preferred, slots, fallback, ho⟩ := hstops ha hright
    exact (hnext _ _ _ ho).2 ((hn slots).stop q (hb.of_place hleft hright) hr)
  · rintro q c rest ⟨m, ha, hb⟩ hp hr
    by_cases hm : m.right = p.right
    · obtain ⟨hleft, hright⟩ := ha.stays_of_right hm
      obtain ⟨preferred, slots, fallback, ho⟩ := hstops ha hright
      obtain ⟨t, ht, hg⟩ := (hn slots).go q c rest (hb.of_place hleft hright) hp hr
      exact ⟨t, (hnext _ _ _ ho).1 t ht, hg⟩
    · obtain ⟨t, ht, hg⟩ := h.go m c rest ha hp hm
      obtain ⟨u, hu, hg⟩ := mem_followed ht hg hb
      exact ⟨u, hfollowed u hu, hg⟩

theorem canStop_firstRound : (o.firstRound b).CanStop ↔ o.CanStop := by
  cases o <;> exact Iff.rfl

theorem threads_firstRound : (o.firstRound b).threads = followed b o.threads := by
  cases o with
  | moves ts => rfl
  | stops preferred slots fallback => exact List.map_append.symm

/-- A round that leads away, followed by further rounds. -/
theorem Complete.moving_round (h : Complete o p (Goes a p)) (greedy : Bool) {q : Cursor} {c : Char} {rest : List Char}
    {k : Nat} (hq : Tours a k p q) (hp : p.right = c :: rest) (hr : q.right ≠ p.right) :
    ∃ t ∈ followed (again a greedy) o.threads, Goes t.rest ⟨c :: p.left, rest, []⟩ q := by
  obtain ⟨m, hm, hmr, hmq⟩ := exists_moving_round greedy hq hr
  obtain ⟨t, ht, hg⟩ := h.go m c rest hm hp hmr
  exact mem_followed ht hg hmq

end Outcome

/-! ## Steps -/

theorem goes_rep_open_succ {min : Nat} {greedy : Bool} (h : Goes (rep a (min + 1) none greedy) p q) :
    ∃ m, Goes a p m ∧ Goes (rep a min none greedy) m q := by
  obtain ⟨k, hk, -, hq⟩ := goes_rep_iff.mp h
  have hk : min + 1 ≤ k := hk.resolve_right nofun
  obtain ⟨k, rfl⟩ : ∃ n, k = n + 1 := ⟨k - 1, by omega⟩
  obtain ⟨m, hm, hq⟩ := tours_succ hq
  exact ⟨m, hm, goes_rep_iff.mpr ⟨k, .inl (by omega), nofun, hq⟩⟩

/-- A first round of a repetition with a maximum, if one is needed or the path leads away. -/
theorem goes_rep_upTo_succ {min max : Nat} {greedy : Bool} (h : Goes (rep a min (some (max + 1)) greedy) p q)
    (hne : min ≠ 0 ∨ q.right ≠ p.right) : ∃ m, Goes a p m ∧ Goes (rep a (min - 1) (some max) greedy) m q := by
  obtain ⟨k, hk, hmax, hq⟩ := goes_rep_iff.mp h
  have hmax := hmax (max + 1) rfl
  cases k with
  | zero =>
    rcases hne with hne | hne
    · rcases hk with hk | hk
      · omega
      · cases hk
    · exact absurd (tours_zero hq) hne
  | succ k =>
    obtain ⟨m, hm, hq⟩ := tours_succ hq
    refine ⟨m, hm, goes_rep_iff.mpr ⟨k, ?_, ?_, hq⟩⟩
    · rcases hk with hk | hk
      · exact .inl (by omega)
      · exact .inr (congrArg some (by have := Option.some.inj hk; omega))
    · rintro n ⟨⟩
      omega

section Rep

variable {round : Slots → Outcome} {greedy : Bool} (hr : ∀ slots, (round slots).Complete p (Goes a p))
include hr

theorem firstRound_go {min : Nat} (slots : Slots) (q : Cursor) (c : Char) (rest : List Char)
    (hq : Goes (rep a min none greedy) p q) (hp : p.right = c :: rest) (hne : q.right ≠ p.right) :
    ∃ t ∈ ((round slots).firstRound (again a greedy)).threads, Goes t.rest ⟨c :: p.left, rest, []⟩ q := by
  obtain ⟨k, -, -, hq⟩ := goes_rep_iff.mp hq
  rw [Outcome.threads_firstRound]
  exact (hr slots).moving_round greedy hq hp hne

theorem advanceOpen_complete (min : Nat) (slots : Slots) :
    (advanceOpen round a greedy min slots).Complete p (Goes (rep a min none greedy) p) := by
  induction min generalizing slots with
  | zero => exact Outcome.Complete.orStop (firstRound_go hr slots)
  | succ min ih =>
    cases min with
    | zero =>
      refine ⟨fun q hq he => Outcome.canStop_firstRound.mpr ?_, firstRound_go hr slots⟩
      obtain ⟨m, hm, hq⟩ := goes_rep_open_succ hq
      exact (hr slots).stop m hm (hm.stays hq he).2
    | succ min => exact ((hr slots).andThen ih).mono fun q => goes_rep_open_succ

theorem advanceUpTo_complete (max min : Nat) (slots : Slots) :
    (advanceUpTo round a greedy max min slots).Complete p (Goes (rep a min (some max) greedy) p) := by
  induction max generalizing min slots with
  | zero =>
    refine ⟨fun _ _ _ => trivial, fun q c rest hq _ hne => absurd ?_ hne⟩
    obtain ⟨k, -, hmax, hq⟩ := goes_rep_iff.mp hq
    obtain rfl : k = 0 := Nat.le_zero.mp (hmax 0 rfl)
    exact tours_zero hq
  | succ max ih =>
    cases min with
    | zero =>
      refine Outcome.Complete.orStop fun q c rest hq hp hne => ?_
      exact ((hr slots).andThen (ih 0)).go q c rest (goes_rep_upTo_succ hq (.inr hne)) hp hne
    | succ min =>
      exact ((hr slots).andThen (ih min)).mono fun q hq => goes_rep_upTo_succ hq (.inl (Nat.succ_ne_zero min))

theorem advanceRep_complete (min : Nat) (max : Option Nat) (slots : Slots) :
    (advanceRep round a greedy min max slots).Complete p (Goes (rep a min max greedy) p) := by
  cases max with
  | none => exact advanceOpen_complete hr min slots
  | some max => exact advanceUpTo_complete hr max min slots

end Rep

/-- What an expression can do at a cursor misses none of its paths. -/
theorem advance_complete (r : Regex) (p : Cursor) (position : Nat) (slots : Slots) :
    (advance p.left.head? p.right.head? position r slots).Complete p (Goes r p) := by
  have hstay {o : Outcome} {R : Cursor → Prop} (hR : ∀ q, R q → q.right = p.right ∧ o.CanStop) : o.Complete p R :=
    ⟨fun q hq _ => (hR q hq).2, fun q _ _ hq _ hne => absurd (hR q hq).1 hne⟩
  induction r generalizing slots with
  | empty =>
    refine hstay ?_
    rintro q ⟨_, _, hq⟩
    exact ⟨(Cursor.mk.inj hq).2.1, trivial⟩
  | set chars =>
    constructor
    · rintro q ⟨_, _, c, rest, hp, -, hq⟩ he
      have := congrArg List.length (hp.symm.trans (he.symm.trans (Cursor.mk.inj hq).2.1))
      simp at this
    · rintro q c rest ⟨_, _, d, rest', hp', hd, hq⟩ hp hne
      obtain ⟨rfl, rfl⟩ := List.cons.inj (hp.symm.trans hp')
      have ho : advance p.left.head? p.right.head? position (set chars) slots = .moves [⟨empty, slots⟩] := by
        unfold advance
        rw [hp]
        exact if_pos hd
      rw [ho]
      refine ⟨⟨empty, slots⟩, List.mem_singleton_self _, [], [], ?_⟩
      obtain ⟨hleft, hright, -⟩ := Cursor.mk.inj hq
      rw [hleft, hright]
      rfl
  | look assertion =>
    refine hstay ?_
    rintro q ⟨_, _, hl, hq⟩
    refine ⟨(Cursor.mk.inj hq).2.1, ?_⟩
    rw [advance, if_pos hl]
    trivial
  | mark slot =>
    refine hstay ?_
    rintro q ⟨_, _, hq⟩
    exact ⟨(Cursor.mk.inj hq).2.1, trivial⟩
  | seq a b iha ihb =>
    refine ((iha slots).andThen ihb).mono ?_
    rintro q ⟨s, s', m, hm, hq⟩
    exact ⟨m, ⟨s, m.slots, hm⟩, m.slots, s', hq⟩
  | alt a b iha ihb =>
    refine ((iha slots).orElse (ihb slots)).mono ?_
    rintro q ⟨s, s', hq⟩
    exact hq.imp (fun h => ⟨s, s', h⟩) fun h => ⟨s, s', h⟩
  | rep a min max greedy ih => exact advanceRep_complete ih min max slots
  | again a greedy ih =>
    refine Outcome.Complete.orStop fun q c rest hq hp hne => ?_
    obtain ⟨k, hq⟩ := goes_again_iff.mp hq
    exact (ih slots).moving_round greedy hq hp hne

/-! ## Runs -/

theorem stepThreads_complete {threads : List Thread} {t : Thread} (ht : t ∈ threads) (h : Goes t.rest p q)
    (position : Nat) :
    (stepThreads p.left.head? p.right.head? position threads).2.isSome = true ∨
      ∃ c rest, p.right = c :: rest ∧ ∃ u ∈ (stepThreads p.left.head? p.right.head? position threads).1,
        Goes u.rest ⟨c :: p.left, rest, []⟩ q := by
  induction threads with
  | nil => cases ht
  | cons t' ts ih =>
    rw [stepThreads]
    split
    · rename_i us hus
      dsimp only
      rcases List.mem_cons.mp ht with rfl | ht
      · have hc := advance_complete t.rest p position t.slots
        rw [hus] at hc
        obtain ⟨c, rest, hp⟩ := h.exists_next (hc.stop q h)
        obtain ⟨u, hu, hg⟩ := hc.go q c rest h hp (hc.stop q h)
        exact .inr ⟨c, rest, hp, u, List.mem_append_left _ hu, hg⟩
      · rcases ih ht with hhit | ⟨c, rest, hp, u, hu, hg⟩
        · exact .inl hhit
        · exact .inr ⟨c, rest, hp, u, List.mem_append_right us hu, hg⟩
    · exact .inl rfl

theorem exists_mem_distinct {seen : List Regex} {threads : List Thread} {t : Thread} (ht : t ∈ threads)
    (hs : t.rest ∉ seen) : ∃ u ∈ distinct seen threads, u.rest = t.rest := by
  fun_induction distinct seen threads with
  | case1 => cases ht
  | case2 seen u us hu ih =>
    rcases List.mem_cons.mp ht with rfl | ht
    · exact absurd (List.contains_iff_mem.mp hu) hs
    · exact ih ht hs
  | case3 seen u us hu ih =>
    by_cases he : u.rest = t.rest
    · exact ⟨u, List.mem_cons_self, he⟩
    · have ht : t ∈ us := by
        rcases List.mem_cons.mp ht with rfl | ht
        · exact absurd rfl he
        · exact ht
      obtain ⟨v, hv, hvt⟩ := ih ht (by simpa [hs] using fun h => he h.symm)
      exact ⟨v, List.mem_cons_of_mem u hv, hvt⟩

theorem run_isSome_of_best {threads : List Thread} {before : Option Char} {position : Nat} {best : Option (Nat × Slots)}
    (h : best.isSome = true) (cs : List Char) : (run threads before position best cs).isSome = true := by
  induction cs generalizing threads before position best with
  | nil =>
    rw [run]
    simp [h]
  | cons c cs ih =>
    rw [run]
    dsimp only
    split
    · simp [h]
    · exact ih (by simp [h])

theorem run_complete {threads : List Thread} {left cs : List Char} {position : Nat} {best : Option (Nat × Slots)}
    {t : Thread} (ht : t ∈ threads) (h : Goes t.rest ⟨left, cs, []⟩ q) :
    (run threads left.head? position best cs).isSome = true := by
  induction cs generalizing threads left position best t with
  | nil =>
    rw [run]
    rcases stepThreads_complete ht h position with hhit | ⟨c, rest, hp, -⟩
    · dsimp only [List.head?_nil] at hhit
      rw [Option.isSome_or, Option.isSome_map, hhit, Bool.true_or]
    · cases hp
  | cons c cs ih =>
    rw [run]
    dsimp only
    rcases stepThreads_complete ht h position with hhit | ⟨d, rest, hp, u, hu, hg⟩
    · dsimp only [List.head?_cons] at hhit
      have hbest (best : Option (Nat × Slots)) :
          (((stepThreads left.head? (some c) position threads).2.map fun slots => (position, slots)).or best).isSome =
            true := by
        rw [Option.isSome_or, Option.isSome_map, hhit, Bool.true_or]
      split
      · exact hbest best
      · exact run_isSome_of_best (hbest best) cs
    · cases hp
      dsimp only [List.head?_cons] at hu
      rw [if_neg (by simpa using List.ne_nil_of_mem hu)]
      obtain ⟨v, hv, hvu⟩ := exists_mem_distinct hu List.not_mem_nil
      exact @ih (distinct [] _) (c :: left) _ _ v hv (hvu ▸ hg)

/-! ## Matches -/

theorem matchAt?_isSome {left cs : List Char} (h : Goes r ⟨left, cs, []⟩ q) (position : Nat) :
    (r.matchAt? left.head? position cs).isSome = true := by
  rw [matchAt?, Option.isSome_map]
  exact run_complete (List.mem_singleton_self (Thread.mk r [])) h

/-- A path that starts at or behind a place is found from there. -/
theorem findFrom?_isSome {left w cs : List Char} (h : Goes r ⟨w.reverse ++ left, cs, []⟩ q) (position : Nat) :
    (r.findFrom? left.head? position (w ++ cs)).isSome = true := by
  induction w generalizing left position with
  | nil =>
    have := matchAt?_isSome h position
    rw [findFrom?.eq_def]
    split
    · rfl
    · rename_i hnone
      rw [List.nil_append] at hnone
      rw [List.reverse_nil, List.nil_append, hnone] at this
      cases this
  | cons c w ih =>
    rw [List.cons_append, findFrom?]
    split
    · rfl
    · refine @ih (c :: left) ?_ _
      rwa [List.reverse_cons, List.append_assoc] at h

/-- **Something is found exactly if the expression has a path in the text.** -/
theorem find?_isSome_iff {cs : List Char} : (r.find? cs).isSome = true ↔ ∃ m, Matches r cs m := by
  constructor
  · intro h
    obtain ⟨m, hm⟩ := Option.isSome_iff_exists.mp h
    exact ⟨m, find?_matches hm⟩
  · rintro ⟨m, p, q, rfl, hslots, ht, -⟩
    refine @findFrom?_isSome r q [] p.left.reverse p.right ?_ 0
    rw [List.reverse_reverse, List.append_nil]
    exact ht.goes.of_place rfl rfl

end SourceAudit.Regex
