import Mathlib.Tactic.SplitIfs
import SourceAudit.Proofs.Query.Grammar

/-!
# Steps of a parser and phrases of a grammar

* `Reads p x` : the step `p` succeeds exactly on the words of the phrase `x`, whatever follows them;
* `Extends item x act` : the item `item s` of a list reads a word of `x` and updates `s` by its value;
* `separated_ok_iff` : the loop over lists, once for the five lists of the grammar;
* `reads_of_token`, `Reads.oneOrList` : steps of one token, and of one value or a list of them.
-/

namespace SourceAudit.Query

open Grammar

variable {α σ : Type}

/-! ## Steps and words -/

/-- The step succeeds exactly on the words of a phrase, and leaves what follows the word. -/
def Reads (p : Step α) (x : Phrase α) : Prop :=
  ∀ ts a rest, p ts = .ok (a, rest) ↔ ∃ used, ts = used ++ rest ∧ x (used.map Token.kind) a

/-- The item of a list reads a word and updates the state by its value, which may be refused. -/
def Extends (item : σ → Step σ) (x : Phrase α) (act : σ → α → Option σ) : Prop :=
  ∀ s ts s' rest, item s ts = .ok (s', rest) ↔
    ∃ used a, ts = used ++ rest ∧ x (used.map Token.kind) a ∧ act s a = some s'

/-- Every word starts with a token, which is not the closing one. -/
def Opens (x : Phrase α) (close : TokenKind) : Prop := ∀ w a, x w a → ∃ k v, w = k :: v ∧ k ≠ close

theorem bind_ok_iff {ε β : Type} (p : Except ε α) (f : α → Except ε β) (b : β) :
    (p >>= f) = .ok b ↔ ∃ a, p = .ok a ∧ f a = .ok b := by
  cases p with
  | error e => simp [bind, Except.bind]
  | ok a => simp [bind, Except.bind]

theorem expect_ok_iff (kind : TokenKind) (context : String) (ts rest : List Token) :
    expect kind context ts = .ok rest ↔ ∃ t, ts = t :: rest ∧ t.kind = kind := by
  cases ts with
  | nil => simp [expect]
  | cons t ts =>
    rw [expect]
    split_ifs with h
    · constructor
      · intro hok
        cases hok
        exact ⟨t, rfl, h⟩
      · rintro ⟨_, hts, -⟩
        cases hts
        rfl
    · refine iff_of_false nofun ?_
      rintro ⟨_, hts, ht⟩
      cases hts
      exact h ht

theorem Reads.collecting {p : Step α} {x : Phrase α} (h : Reads p x) :
    Extends (collecting p) x (fun acc a => some (acc ++ [a])) := by
  intro acc ts acc' rest
  rw [Query.collecting]
  constructor
  · intro hok
    split at hok
    · cases hok
    · rename_i a rest' hp
      cases hok
      obtain ⟨used, hts, hx⟩ := (h ts a rest).mp hp
      exact ⟨used, a, hts, hx, rfl⟩
  · rintro ⟨used, a, hts, hx, hact⟩
    rw [(h ts a rest).mpr ⟨used, hts, hx⟩]
    cases hact
    rfl

/-! ## Lists -/

theorem nextIs_eq_false {x : Phrase α} {close : TokenKind} (hopens : Opens x close) {used : List Token} {a : α}
    (hx : x (used.map Token.kind) a) (rest : List Token) : nextIs close (used ++ rest) = false := by
  obtain ⟨k, v, hw, hk⟩ := hopens _ _ hx
  obtain ⟨t, us, rfl, rfl, -⟩ := List.map_eq_cons_iff.mp hw
  rw [List.cons_append, nextIs, decide_eq_false hk]

section Separated
variable {item : σ → Step σ} {x : Phrase α} {act : σ → α → Option σ} {close : TokenKind}

/-- What the loop has taken when it stops at a token that is no comma is a list. -/
theorem separated_sound (hitem : Extends item x act) (s s' : σ) (ts rest : List Token) (c : Token)
    (hc : c.kind ≠ .comma) (h : separated close item s ts = .ok (s', c :: rest)) :
    ∃ used as, ts = used ++ c :: rest ∧ Listed x (used.map Token.kind) as ∧ as.foldlM act s = some s' := by
  fun_induction separated close item s ts with
  | case1 s ts _ =>
    cases h
    exact ⟨[], [], rfl, .nothing, rfl⟩
  | case2 => cases h
  | case3 => cases h
  | case4 s ts _ s₁ t next hstep ht _ ih =>
    obtain ⟨used, a, rfl, hx, hact⟩ := (hitem _ _ _ _).mp hstep
    obtain ⟨more, as, rfl, hmore, hfold⟩ := ih h
    refine ⟨used ++ t :: more, a :: as, by simp, ?_, ?_⟩
    · rw [List.map_append, List.map_cons, ht]
      exact .cons hx hmore
    · rw [List.foldlM_cons, hact]
      exact hfold
  | case5 s ts _ s₁ t next _ ht _ =>
    cases h
    exact absurd ht hc
  | case6 s ts _ s₁ t next hstep ht =>
    cases h
    obtain ⟨used, a, rfl, hx, hact⟩ := (hitem _ _ _ _).mp hstep
    refine ⟨used, [a], rfl, .plain (.one hx), ?_⟩
    rw [List.foldlM_cons, hact]
    rfl

/-- The loop takes a whole list that is followed by the closing token. -/
theorem separated_complete (hitem : Extends item x act) (hopens : Opens x close) (hclose : close ≠ .comma)
    (rest : List Token) (c : Token) (hc : c.kind = close) (s' : σ) (as : List α) :
    ∀ (s : σ) (used : List Token), Listed x (used.map Token.kind) as → as.foldlM act s = some s' →
      separated close item s (used ++ c :: rest) = .ok (s', c :: rest) := by
  induction as with
  | nil =>
    intro s used hlist hfold
    cases hfold
    rcases hlist.uncons with ⟨hw, -⟩ | ⟨_, _, _, ⟨-, h⟩ | ⟨_, _, -, h, -⟩⟩
    · rw [List.map_eq_nil_iff.mp hw, separated, List.nil_append, nextIs, decide_eq_true hc, if_pos rfl]
    · cases h
    · cases h
  | cons a as ih =>
    intro s used hlist hfold
    rw [List.foldlM_cons] at hfold
    obtain ⟨s₁, hact, hfold⟩ := Option.bind_eq_some_iff.mp hfold
    rcases hlist.uncons with ⟨-, h⟩ | ⟨v, b, hx, ⟨hw, h⟩ | ⟨u, bs, hw, h, hu⟩⟩
    · cases h
    · cases h
      cases hfold
      rw [← hw] at hx
      have hstep := (hitem s (used ++ c :: rest) s' (c :: rest)).mpr ⟨used, a, rfl, hx, hact⟩
      rw [separated, nextIs_eq_false hopens hx, hstep]
      simp [hc, hclose]
    · cases h
      obtain ⟨first, others, rfl, rfl, hothers⟩ := List.map_eq_append_iff.mp hw
      obtain ⟨t, more, rfl, ht, rfl⟩ := List.map_eq_cons_iff.mp hothers
      have hstep := (hitem s (first ++ t :: (more ++ c :: rest)) s₁ (t :: (more ++ c :: rest))).mpr
        ⟨first, a, rfl, hx, hact⟩
      have hlen : (more ++ c :: rest).length < (first ++ t :: (more ++ c :: rest)).length := by
        simp only [List.length_append, List.length_cons]; omega
      rw [List.append_assoc, List.cons_append, separated, nextIs_eq_false hopens hx, hstep]
      simp only [Bool.false_eq_true, if_false, ht, if_true, if_pos hlen]
      exact ih s₁ more hu hfold

theorem separated_ok_iff (hitem : Extends item x act) (hopens : Opens x close) (hclose : close ≠ .comma)
    (s s' : σ) (ts rest : List Token) (context : String) :
    (∃ mid, separated close item s ts = .ok (s', mid) ∧ expect close context mid = .ok rest) ↔
      ∃ used as w, ts = used ++ rest ∧ used.map Token.kind = w ++ [close] ∧ Listed x w as ∧
      as.foldlM act s = some s' := by
  constructor
  · rintro ⟨mid, hsep, hexp⟩
    obtain ⟨c, rfl, hc⟩ := (expect_ok_iff _ _ _ _).mp hexp
    obtain ⟨used, as, rfl, hlist, hfold⟩ := separated_sound hitem s s' ts rest c (hc ▸ hclose) hsep
    exact ⟨used ++ [c], as, _, by simp, by rw [List.map_append, List.map_singleton, hc], hlist, hfold⟩
  · rintro ⟨used, as, w, rfl, hw, hlist, hfold⟩
    obtain ⟨items, last, rfl, rfl, hlast⟩ := List.map_eq_append_iff.mp hw
    obtain ⟨c, rfl, hc⟩ := List.map_eq_singleton_iff.mp hlast
    refine ⟨c :: rest, ?_, (expect_ok_iff _ _ _ _).mpr ⟨c, rfl, hc⟩⟩
    rw [List.append_assoc]
    exact separated_complete hitem hopens hclose rest c hc s' as s items hlist hfold

end Separated

/-- Collecting values in order adds them at the end. -/
theorem foldlM_collect (as acc acc' : List α) :
    as.foldlM (fun acc a => some (acc ++ [a])) acc = some acc' ↔ acc' = acc ++ as := by
  induction as generalizing acc with
  | nil => simp [eq_comm]
  | cons a as ih =>
    rw [List.foldlM_cons]
    exact (ih (acc ++ [a])).trans (by rw [List.append_assoc, List.singleton_append])

theorem collected_ok_iff {p : Step α} {x : Phrase α} {close : TokenKind} (hp : Reads p x) (hopens : Opens x close)
    (hclose : close ≠ .comma) (as : List α) (ts rest : List Token) (context : String) :
    (∃ mid, separated close (collecting p) [] ts = .ok (as, mid) ∧ expect close context mid = .ok rest) ↔
      ∃ used w, ts = used ++ rest ∧ used.map Token.kind = w ++ [close] ∧ Listed x w as := by
  rw [separated_ok_iff hp.collecting hopens hclose]
  constructor
  · rintro ⟨used, bs, w, hts, hw, hlist, hfold⟩
    obtain rfl := (foldlM_collect bs [] as).mp hfold
    exact ⟨used, w, hts, hw, hlist⟩
  · rintro ⟨used, w, hts, hw, hlist⟩
    exact ⟨used, as, w, hts, hw, hlist, (foldlM_collect as [] as).mpr rfl⟩

/-! ## One token, one value or a list -/

theorem reads_of_token {p : Step α} {x : Phrase α} (hnil : p [] = .error .endOfTokens)
    (hword : ∀ w a, x w a → ∃ k, w = [k])
    (htoken : ∀ t ts a rest, p (t :: ts) = .ok (a, rest) ↔ ts = rest ∧ x [t.kind] a) : Reads p x := by
  intro ts a rest
  constructor
  · intro h
    cases ts with
    | nil => rw [hnil] at h; cases h
    | cons t ts =>
      obtain ⟨rfl, hx⟩ := (htoken t ts a rest).mp h
      exact ⟨[t], rfl, hx⟩
  · rintro ⟨used, rfl, hx⟩
    obtain ⟨k, hk⟩ := hword _ _ hx
    obtain ⟨t, rfl, rfl⟩ := List.map_eq_singleton_iff.mp hk
    exact (htoken t rest a rest).mpr ⟨rfl, hx⟩

theorem shortOrList_cons_iff {short : Phrase (List α)} {x : Phrase α} (hshort : Opens short .leftBracket) (t : Token)
    (ts rest : List Token) (as : List α) :
    (∃ used, t :: ts = used ++ rest ∧ ShortOrList short x (used.map Token.kind) as) ↔
      if t.kind = .leftBracket then
        ∃ used w, ts = used ++ rest ∧ used.map Token.kind = w ++ [.rightBracket] ∧ Listed x w as
      else ∃ used, t :: ts = used ++ rest ∧ short (used.map Token.kind) as := by
  split_ifs with ht
  · constructor
    · rintro ⟨used, hts, hx⟩
      generalize hw : used.map Token.kind = w at hx
      cases hx with
      | short h =>
        obtain ⟨k, v, rfl, hk⟩ := hshort _ _ h
        obtain ⟨u, us, rfl, hu, -⟩ := List.map_eq_cons_iff.mp hw
        cases hts
        exact absurd (hu.symm.trans ht) hk
      | list h =>
        obtain ⟨u, us, rfl, -, hus⟩ := List.map_eq_cons_iff.mp hw
        cases hts
        exact ⟨us, _, rfl, hus, h⟩
    · rintro ⟨used, w, rfl, hw, h⟩
      refine ⟨t :: used, rfl, ?_⟩
      rw [List.map_cons, ht, hw]
      exact .list h
  · constructor
    · rintro ⟨used, hts, hx⟩
      generalize hw : used.map Token.kind = w at hx
      cases hx with
      | short h => exact ⟨used, hts, hw ▸ h⟩
      | list h =>
        obtain ⟨u, us, rfl, hu, -⟩ := List.map_eq_cons_iff.mp hw
        cases hts
        exact absurd hu ht
    · rintro ⟨used, hts, h⟩
      exact ⟨used, hts, .short h⟩

theorem not_shortOrList_nil {short : Phrase (List α)} {x : Phrase α} (hshort : Opens short .leftBracket)
    (rest : List Token) (as : List α) :
    ¬ ∃ used, [] = used ++ rest ∧ ShortOrList short x (used.map Token.kind) as := by
  rintro ⟨used, hts, hx⟩
  rw [(List.append_eq_nil_iff.mp hts.symm).1, List.map_nil] at hx
  generalize hw : [] = w at hx
  cases hx with
  | short h =>
    obtain ⟨k, v, hv, -⟩ := hshort _ _ h
    rw [← hw] at hv
    cases hv
  | list h => cases hw

theorem Opens.single {x : Phrase α} {close : TokenKind} (h : Opens x close) : Opens (Single x) close := by
  rintro w as ⟨a, hx, -⟩
  exact h w a hx

theorem Reads.single_iff {p : Step α} {x : Phrase α} (h : Reads p x) (ts rest : List Token) (as : List α) :
    (∃ used, ts = used ++ rest ∧ Single x (used.map Token.kind) as) ↔ ∃ a, p ts = .ok (a, rest) ∧ as = [a] := by
  constructor
  · rintro ⟨used, hts, a, hx, has⟩
    exact ⟨a, (h ts a rest).mpr ⟨used, hts, hx⟩, has⟩
  · rintro ⟨a, hp, has⟩
    obtain ⟨used, hts, hx⟩ := (h ts a rest).mp hp
    exact ⟨used, hts, a, hx, has⟩

theorem Reads.oneOrList {p : Step α} {x : Phrase α} (hp : Reads p x) (hleft : Opens x .leftBracket)
    (hright : Opens x .rightBracket) (context : String) :
    Reads (oneOrList p context) (ShortOrList (Single x) x) := by
  intro ts as rest
  cases ts with
  | nil => exact iff_of_false nofun (not_shortOrList_nil hleft.single rest as)
  | cons t ts =>
    rw [shortOrList_cons_iff hleft.single, Query.oneOrList]
    split_ifs with ht
    · rw [← collected_ok_iff hp hright (by decide) as ts rest context]
      simp only [bind_ok_iff, Prod.exists, pure, Except.pure, Except.ok.injEq, Prod.mk.injEq]
      constructor
      · rintro ⟨_, mid, hsep, _, hexp, rfl, rfl⟩
        exact ⟨mid, hsep, hexp⟩
      · rintro ⟨mid, hsep, hexp⟩
        exact ⟨as, mid, hsep, rest, hexp, rfl, rfl⟩
    · rw [hp.single_iff]
      simp only [bind_ok_iff, Prod.exists, pure, Except.pure, Except.ok.injEq, Prod.mk.injEq]
      constructor
      · rintro ⟨a, _, ha, rfl, rfl⟩
        exact ⟨a, ha, rfl⟩
      · rintro ⟨a, ha, rfl⟩
        exact ⟨a, rest, ha, rfl, rfl⟩

end SourceAudit.Query
