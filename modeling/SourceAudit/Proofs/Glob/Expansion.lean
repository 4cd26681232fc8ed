import Mathlib.Tactic.SplitIfs
import SourceAudit.Glob.Parser
import SourceAudit.Proofs.Glob.Matching

/-!
# Globs with directories around them

* `parse_eq_ok_iff` : the glob of a text, by what is read;
* `readClass_ok` : a class ends at a bracket, whatever follows it;
* `Rooted`, `State.Rooted` : directories at the start are the first token, if they are there at all;
* `EndsBelow ts` : tokens, the last first, that stand for all that is below something;
* `read_below`, `parse_below` : with `/**` behind it, a glob stands for all that is below, and is else unchanged;
* `downward_of_parse_below` : whatever stands before `/**`, the glob stands for all that is below something;
* `read_beside`, `parse_anywhere` : with `**` and a slash before it, a glob without slashes is still a glob.
-/

namespace SourceAudit.Glob

variable {s s' : State} {before after : Option Char} {cs rest : List Char} {t : GlobToken}
  {ts : List GlobToken} {g : Glob}

theorem parse_eq_ok_iff {text : String} :
    parse text = .ok g ↔ ∃ s, read {} none text.toList = .ok s ∧ s.frames = [] ∧ g = s.current.reverse := by
  unfold parse
  cases hread : read {} none text.toList with
  | error e => simp [bind, Except.bind]
  | ok s =>
    simp only [bind, Except.bind, Except.ok.injEq, exists_eq_left', pure, Except.pure]
    split
    · rename_i hframes
      simp [List.isEmpty_iff.mp hframes, eq_comm]
    · rename_i hframes
      simp only [reduceCtorEq, false_iff, not_and]
      intro h
      exact absurd (List.isEmpty_iff.mpr h) hframes

/-! ## Classes -/

theorem classRanges_ok {ranges found : List (Char × Char)} {dash : Bool}
    (h : classRanges ranges dash cs = .ok (found, rest)) :
    ∃ used, cs = used ++ ']' :: rest ∧ ∀ other, classRanges ranges dash (used ++ ']' :: other) =
      .ok (found, other) := by
  fun_induction classRanges ranges dash cs with
  | case1 => cases h
  | case2 ranges dash cs =>
    cases h
    exact ⟨[], rfl, fun other => rfl⟩
  | case3 ranges c cs hc ih =>
    cases hr : endRange c ranges with
    | error e => simp [hr, bind, Except.bind] at h
    | ok rs =>
      simp only [hr, bind, Except.bind] at h
      obtain ⟨used, rfl, hused⟩ := ih rs h
      refine ⟨c :: used, rfl, fun other => ?_⟩
      rw [List.cons_append, classRanges.eq_3 _ _ _ _ hc, if_pos rfl, hr]
      exact hused other
  | case4 ranges dash cs hdash hc ih =>
    obtain ⟨used, rfl, hused⟩ := ih h
    refine ⟨'-' :: used, rfl, fun other => ?_⟩
    rw [List.cons_append, classRanges.eq_3 _ _ _ _ hc, if_neg hdash, if_pos rfl, hused]
  | case5 ranges dash c cs hc hdash hhyphen ih =>
    obtain ⟨used, rfl, hused⟩ := ih h
    refine ⟨c :: used, rfl, fun other => ?_⟩
    rw [List.cons_append, classRanges.eq_3 _ _ _ _ hc, if_neg hdash, if_neg hhyphen, hused]

theorem readMembers_ok {negated : Bool} (h : readMembers negated cs = .ok (t, rest)) :
    (∃ ranges, t = .byteClass negated ranges) ∧ ∃ c used, cs = c :: (used ++ ']' :: rest) ∧
      ∀ other, readMembers negated (c :: (used ++ ']' :: other)) = .ok (t, other) := by
  unfold readMembers at h
  split at h
  · cases h
  · rename_i c cs
    split at h
    · rename_i ranges cs' hranges
      cases h
      obtain ⟨used, rfl, hused⟩ := classRanges_ok hranges
      refine ⟨⟨ranges, rfl⟩, c, used, rfl, fun other => ?_⟩
      rw [readMembers, hused]
    · cases h

/-- A class ends at a bracket, whatever follows it. -/
theorem readClass_ok (h : readClass cs = .ok (t, rest)) :
    t ≠ .anyPrefix ∧ ∃ used, cs = used ++ ']' :: rest ∧ ∀ other, readClass (used ++ ']' :: other) = .ok (t, other) := by
  unfold readClass at h
  split at h
  · obtain ⟨⟨ranges, rfl⟩, c, used, rfl, hused⟩ := readMembers_ok h
    exact ⟨by simp, '!' :: c :: used, rfl, hused⟩
  · obtain ⟨⟨ranges, rfl⟩, c, used, rfl, hused⟩ := readMembers_ok h
    exact ⟨by simp, '^' :: c :: used, rfl, hused⟩
  · rename_i hbang hcaret
    obtain ⟨⟨ranges, rfl⟩, c, used, rfl, hused⟩ := readMembers_ok h
    refine ⟨by simp, c :: used, rfl, fun other => ?_⟩
    rw [List.cons_append, readClass.eq_3, hused other]
    · rintro cs' ⟨rfl, -⟩
      exact hbang _ rfl
    · rintro cs' ⟨rfl, -⟩
      exact hcaret _ rfl

/-! ## Where directories at the start can be -/

/-- Directories at the start are the first token, if they are there at all. Tokens are kept the last first. -/
def Rooted (ts : List GlobToken) : Prop := .anyPrefix ∉ ts.dropLast

theorem Rooted.cons (h : Rooted ts) (ht : t ≠ .anyPrefix) : Rooted (t :: ts) := by
  cases ts with
  | nil => exact List.not_mem_nil
  | cons u us =>
    rw [Rooted, List.dropLast_cons_cons, List.mem_cons, not_or]
    exact ⟨ht.symm, h⟩

theorem Rooted.tail (h : Rooted (t :: ts)) : Rooted ts := by
  cases ts with
  | nil => exact List.not_mem_nil
  | cons u us =>
    rw [Rooted, List.dropLast_cons_cons, List.mem_cons, not_or] at h
    exact h.2

theorem Rooted.eq_singleton (h : Rooted (.anyPrefix :: ts)) : ts = [] := by
  cases ts with
  | nil => rfl
  | cons u us => exact absurd List.mem_cons_self h

/-- So it is in the branch that is read, and in what stands before the open groups. -/
structure State.Rooted (s : State) : Prop where
  current : Glob.Rooted s.current
  frames : ∀ f ∈ s.frames, Glob.Rooted f.before

theorem State.rooted_start : State.Rooted {} := ⟨List.not_mem_nil, List.forall_mem_nil _⟩

namespace State

@[simp] theorem current_push (s : State) (t : GlobToken) : (s.push t).current = t :: s.current := rfl

@[simp] theorem frames_push (s : State) (t : GlobToken) : (s.push t).frames = s.frames := rfl

@[simp] theorem frames_pushStars (s : State) : s.pushStars.frames = s.frames := rfl

@[simp] theorem frames_turnLast (s : State) (t : GlobToken) : (s.turnLast t).frames = s.frames := by
  unfold turnLast
  split <;> rfl

theorem current_turnLast_ne_nil (s : State) (t : GlobToken) : (s.turnLast t).current ≠ [] := by
  unfold turnLast
  split <;> simp [*]

theorem Rooted.push (h : s.Rooted) (ht : t ≠ .anyPrefix) : (s.push t).Rooted := ⟨h.current.cons ht, h.frames⟩

theorem Rooted.pushStars (h : s.Rooted) : s.pushStars.Rooted := (h.push (by simp)).push (by simp)

theorem Rooted.turnLast (h : s.Rooted) (ht : t ≠ .anyPrefix) : (s.turnLast t).Rooted := by
  refine ⟨?_, by simpa using h.frames⟩
  unfold State.turnLast
  split
  · exact h.current
  · exact h.current
  · rename_i u ts _ _ hcurrent
    have htail : Glob.Rooted ts := (hcurrent ▸ h.current : Glob.Rooted (u :: ts)).tail
    exact htail.cons ht
  · exact List.not_mem_nil

theorem Rooted.openGroup (h : s.Rooted) : s.openGroup.Rooted :=
  ⟨List.not_mem_nil, List.forall_mem_cons.mpr ⟨h.current, h.frames⟩⟩

theorem Rooted.nextBranch (h : s.Rooted) : s.nextBranch.Rooted := by
  unfold State.nextBranch
  split
  · exact h.push (by simp)
  · rename_i f fs hframes
    have hall := List.forall_mem_cons.mp (hframes ▸ h.frames)
    exact ⟨List.not_mem_nil, List.forall_mem_cons.mpr hall⟩

theorem Rooted.closeGroup (h : s.Rooted) (hs : s.closeGroup = .ok s') : s'.Rooted := by
  unfold State.closeGroup at hs
  split at hs
  · cases hs
  · rename_i f fs hframes
    have hall := List.forall_mem_cons.mp (hframes ▸ h.frames)
    cases hs
    exact ⟨hall.1.cons (by simp), hall.2⟩

/-! ## Two stars -/

/-- What two stars can do: start with directories, stand for directories below a slash, or be no more than a star. -/
theorem pushDoubleStar_cases (s : State) (before after : Option Char) :
    (s.current = [] ∧ after = none ∧ s.pushDoubleStar before after = (s.push .anyPrefix, false)) ∨
    (s.current = [] ∧ after = some '/' ∧ s.pushDoubleStar before after = (s.push .anyPrefix, true)) ∨
    s.pushDoubleStar before after = (s.turnLast .anySuffix, false) ∨
    (after = some '/' ∧ s.pushDoubleStar before after = (s.turnLast .anyMiddle, true)) ∨
    s.pushDoubleStar before after = (s.pushStars, false) := by
  rw [pushDoubleStar.eq_1]
  split_ifs <;> simp_all

section DoubleStar

variable {flag : Bool} (hs : s.pushDoubleStar before after = (s', flag))
include hs

theorem frames_of_pushDoubleStar : s'.frames = s.frames := by
  obtain ⟨-, -, h⟩ | ⟨-, -, h⟩ | h | ⟨-, h⟩ | h :=
    s.pushDoubleStar_cases before after <;> cases hs.symm.trans h <;> simp

theorem current_of_pushDoubleStar : s'.current ≠ [] := by
  obtain ⟨-, -, h⟩ | ⟨-, -, h⟩ | h | ⟨-, h⟩ | h := s.pushDoubleStar_cases before after <;> cases hs.symm.trans h <;>
    simp [pushStars, current_turnLast_ne_nil]

/-- The slash behind two stars is part of them only if it is there. -/
theorem after_of_pushDoubleStar (hflag : flag = true) : after = some '/' := by
  obtain ⟨-, -, h⟩ | ⟨-, h, -⟩ | h | ⟨h, -⟩ | h := s.pushDoubleStar_cases before after
  · cases hs.symm.trans h
    cases hflag
  · exact h
  · cases hs.symm.trans h
    cases hflag
  · exact h
  · cases hs.symm.trans h
    cases hflag

theorem Rooted.pushDoubleStar (hroot : s.Rooted) : s'.Rooted := by
  have hstart (hempty : s.current = []) : (s.push .anyPrefix).Rooted := by
    refine ⟨?_, hroot.frames⟩
    rw [current_push, hempty]
    exact List.not_mem_nil
  obtain ⟨hempty, -, h⟩ | ⟨hempty, -, h⟩ | h | ⟨-, h⟩ | h :=
    s.pushDoubleStar_cases before after <;> cases hs.symm.trans h
  · exact hstart hempty
  · exact hstart hempty
  · exact hroot.turnLast (by simp)
  · exact hroot.turnLast (by simp)
  · exact hroot.pushStars

end DoubleStar

end State

/-! ## All that is below -/

/-- The tokens, the last first, end with all that is below, or are directories at the start alone. -/
def EndsBelow (ts : List GlobToken) : Prop := ts = [.anyPrefix] ∨ ∃ us, ts = .anySuffix :: us

theorem EndsBelow.downward (h : EndsBelow ts) : Downward ts.reverse := by
  rcases h with rfl | ⟨us, rfl⟩
  · exact .inl rfl
  · exact .inr ⟨us.reverse, List.reverse_cons⟩

theorem State.Rooted.endsBelow (h : s.Rooted) : EndsBelow (s.turnLast .anySuffix).current := by
  unfold State.turnLast
  split
  · rename_i ts hcurrent
    have hts : ts = [] := Rooted.eq_singleton (hcurrent ▸ h.current)
    exact .inl (by rw [hcurrent, hts])
  · rename_i ts hcurrent
    exact .inr ⟨ts, hcurrent⟩
  · exact .inr ⟨_, rfl⟩
  · exact .inr ⟨_, rfl⟩

theorem read_doubleStar_end (hs : s.current ≠ []) : read s (some '/') ['*', '*'] = .ok (s.turnLast .anySuffix) := by
  have hstars : s.pushDoubleStar (some '/') none = (s.turnLast .anySuffix, false) := by
    rw [State.pushDoubleStar.eq_1, if_neg (by simpa using hs)]
    rfl
  rw [read, List.head?_nil, hstars]
  dsimp only
  rw [read]

theorem read_slash_doubleStar (s : State) (before : Option Char) :
    read s before ['/', '*', '*'] = .ok (s.push .anySuffix) := by
  rw [read.eq_11 s before '/' ['*', '*'] (by simp) (by simp) (by simp) (by simp) (by simp) (by simp) (by simp) (by simp)
    (by simp), read_doubleStar_end (by simp)]
  rfl

/-- A text with a slash and two stars behind it starts with its own first character. -/
theorem append_below_eq_cons {c : Char} (h : cs ++ ['/', '*', '*'] = c :: rest) (hc : c ≠ '/') :
    ∃ cs', cs = c :: cs' ∧ cs' ++ ['/', '*', '*'] = rest := by
  cases cs with
  | nil =>
    cases h
    exact absurd rfl hc
  | cons d cs =>
    cases h
    exact ⟨cs, rfl, rfl⟩

/-- Behind a bracket, the slash and the two stars are still there. -/
theorem append_below_of_bracket {used : List Char} (h : cs ++ ['/', '*', '*'] = used ++ ']' :: rest) :
    ∃ cs', cs' ++ ['/', '*', '*'] = rest := by
  rcases List.append_eq_append_iff.mp h with ⟨a, -, ha⟩ | ⟨a, -, ha⟩
  · have hmem : ']' ∈ ['/', '*', '*'] := by
      rw [ha]
      simp
    simp at hmem
  · cases a with
    | nil => cases ha
    | cons c a =>
      cases ha
      exact ⟨a, rfl⟩

/-- Whatever is read before a slash and two stars at the end, all that is below something is read then. -/
theorem endsBelow_of_read (hs : s.Rooted) (h : read s before (cs ++ ['/', '*', '*']) = .ok s') :
    EndsBelow s'.current := by
  generalize htext : cs ++ ['/', '*', '*'] = text at h
  fun_induction read s before text generalizing cs with
  | case1 => simp at htext
  | case2 s before rest ih =>
    obtain ⟨cs, -, hrest⟩ := append_below_eq_cons htext (by simp)
    exact ih (hs.push (by simp)) hrest h
  | case3 s before rest s₁ hstars ih =>
    obtain ⟨cs₁, -, hrest⟩ := append_below_eq_cons htext (by simp)
    obtain ⟨cs, -, rfl⟩ := append_below_eq_cons hrest (by simp)
    have hs₁ := State.Rooted.pushDoubleStar hstars hs
    cases cs with
    | nil =>
      -- the slash is part of the two stars before it
      rw [List.nil_append, List.tail_cons, read_doubleStar_end (State.current_of_pushDoubleStar hstars)] at h
      cases h
      exact hs₁.endsBelow
    | cons c cs => exact ih hs₁ rfl h
  | case4 s before rest s₁ hstars ih =>
    obtain ⟨cs₁, -, hrest⟩ := append_below_eq_cons htext (by simp)
    obtain ⟨cs, -, rfl⟩ := append_below_eq_cons hrest (by simp)
    have hs₁ := State.Rooted.pushDoubleStar hstars hs
    exact ih hs₁ rfl h
  | case5 s before rest hstar ih =>
    obtain ⟨cs, -, hrest⟩ := append_below_eq_cons htext (by simp)
    exact ih (hs.push (by simp)) hrest h
  | case6 s before rest t rest' hclass ih =>
    obtain ⟨cs, -, hrest⟩ := append_below_eq_cons htext (by simp)
    obtain ⟨ht, used, hused, -⟩ := readClass_ok hclass
    obtain ⟨cs', hrest'⟩ := append_below_of_bracket (hrest.trans hused)
    exact ih (hs.push ht) hrest' h
  | case7 => cases h
  | case8 s before rest ih =>
    obtain ⟨cs, -, hrest⟩ := append_below_eq_cons htext (by simp)
    exact ih hs.openGroup hrest h
  | case9 s before rest s₁ hclose ih =>
    obtain ⟨cs, -, hrest⟩ := append_below_eq_cons htext (by simp)
    exact ih (hs.closeGroup hclose) hrest h
  | case10 => cases h
  | case11 s before rest ih =>
    obtain ⟨cs, -, hrest⟩ := append_below_eq_cons htext (by simp)
    exact ih hs.nextBranch hrest h
  | case12 => cases h
  | case13 s before c rest ih =>
    obtain ⟨cs, -, hrest⟩ := append_below_eq_cons htext (by simp)
    cases cs with
    | nil =>
      -- the slash is escaped
      cases hrest
      rw [read_doubleStar_end (by simp)] at h
      cases h
      exact (hs.push (by simp)).endsBelow
    | cons d cs =>
      cases hrest
      exact ih (hs.push (by simp)) rfl h
  | case14 s before c rest _ _ _ _ _ _ _ _ _ ih =>
    cases cs with
    | nil =>
      cases htext
      rw [read_doubleStar_end (by simp)] at h
      cases h
      exact (hs.push (by simp)).endsBelow
    | cons d cs =>
      cases htext
      exact ih (hs.push (by simp)) rfl h

/-- What is read with a slash and two stars behind it: the same, and all that is below, unless it ends with that
already. -/
def State.Below (s s' : State) : Prop :=
  s'.frames = s.frames ∧
    ((s.current ≠ [.anyPrefix] ∧ s'.current = .anySuffix :: s.current) ∨ (s'.current = s.current ∧ EndsBelow s.current))

theorem State.turnLast_turnLast (s : State) : (s.turnLast .anyMiddle).turnLast .anySuffix = s.turnLast .anySuffix := by
  obtain ⟨current, frames⟩ := s
  cases current with
  | nil => rfl
  | cons t ts => cases t <;> rfl

/-- Two stars at the end of a text mean the same with a slash and two stars behind them, unless they are no more than
a star. -/
theorem State.pushDoubleStar_end (s : State) (before : Option Char) :
    (∃ s₁ s₂, s.pushDoubleStar before none = (s₁, false) ∧ s.pushDoubleStar before (some '/') = (s₂, true) ∧
      s₂.turnLast .anySuffix = s₁) ∨
    (s.pushDoubleStar before none = (s.pushStars, false) ∧ s.pushDoubleStar before (some '/') =
      (s.pushStars, false)) := by
  rw [pushDoubleStar.eq_1, pushDoubleStar.eq_1]
  by_cases hempty : s.current.isEmpty = true
  · left
    rw [if_pos hempty, if_pos hempty]
    exact ⟨_, _, rfl, rfl, rfl⟩
  · rw [if_neg hempty, if_neg hempty]
    split
    · left
      exact ⟨_, _, by simp, by simp, s.turnLast_turnLast⟩
    · right
      exact ⟨rfl, rfl⟩

/-- What follows a text does not change how the text is read, save that two stars at its end see the slash. -/
theorem read_below (hs : s.Rooted) (hend : cs = [] → s.current ≠ [.anyPrefix]) (hlast : ¬['/'] <:+ cs)
    (h : read s before cs = .ok s') : ∃ s'', read s before (cs ++ ['/', '*', '*']) = .ok s'' ∧ s'.Below s'' := by
  have htail {c : Char} {rest : List Char} (hlast : ¬['/'] <:+ c :: rest) : ¬['/'] <:+ rest :=
    fun h => hlast (h.trans (List.suffix_cons c rest))
  fun_induction read s before cs with
  | case1 s before =>
    cases h
    exact ⟨_, read_slash_doubleStar _ _, rfl, .inl ⟨hend rfl, rfl⟩⟩
  | case2 s before rest ih =>
    obtain ⟨s'', hs'', hbelow⟩ := ih (hs.push (by simp)) (by simp) (htail hlast) h
    exact ⟨s'', by rw [List.cons_append, read, hs''], hbelow⟩
  | case3 s before rest s₁ hstars ih =>
    obtain ⟨rest, rfl⟩ : ∃ rest', rest = '/' :: rest' := by
      have := State.after_of_pushDoubleStar hstars rfl
      cases rest with
      | nil => cases this
      | cons c rest => exact ⟨rest, by rw [Option.some.inj this]⟩
    have hmore : rest ≠ [] := by
      rintro rfl
      exact hlast ⟨['*', '*'], rfl⟩
    obtain ⟨s'', hs'', hbelow⟩ := ih (State.Rooted.pushDoubleStar hstars hs) (fun h => absurd h hmore)
      (htail (htail (htail hlast))) h
    refine ⟨s'', ?_, hbelow⟩
    rw [List.head?_cons] at hstars
    rw [List.cons_append, List.cons_append, List.cons_append, read, List.head?_cons, hstars]
    exact hs''
  | case4 s before rest s₁ hstars ih =>
    cases rest with
    | nil =>
      rw [read] at h
      cases h
      rw [List.head?_nil] at hstars
      rcases s.pushDoubleStar_end before with ⟨s₁', s₂, hnone, hslash, hturn⟩ | ⟨hnone, hslash⟩
      · cases hstars.symm.trans hnone
        refine ⟨_, ?_, rfl, .inr ⟨rfl, ?_⟩⟩
        · rw [List.cons_append, List.cons_append, List.nil_append, read, List.head?_cons, hslash]
          dsimp only
          rw [List.tail_cons, read_doubleStar_end (State.current_of_pushDoubleStar hslash), hturn]
        · rw [← hturn]
          exact (State.Rooted.pushDoubleStar hslash hs).endsBelow
      · cases hstars.symm.trans hnone
        refine ⟨s.pushStars.push .anySuffix, ?_, rfl, .inl ⟨by simp [State.pushStars], rfl⟩⟩
        rw [List.cons_append, List.cons_append, List.nil_append, read, List.head?_cons, hslash]
        exact read_slash_doubleStar _ _
    | cons c rest =>
      obtain ⟨s'', hs'', hbelow⟩ := ih (State.Rooted.pushDoubleStar hstars hs) (by simp) (htail (htail hlast)) h
      refine ⟨s'', ?_, hbelow⟩
      rw [List.cons_append, List.cons_append, List.cons_append, read, List.head?_cons]
      rw [List.head?_cons] at hstars
      rw [hstars]
      exact hs''
  | case5 s before rest hstar ih =>
    obtain ⟨s'', hs'', hbelow⟩ := ih (hs.push (by simp)) (by simp) (htail hlast) h
    refine ⟨s'', ?_, hbelow⟩
    have hother (cs : List Char) : rest ++ ['/', '*', '*'] = '*' :: cs → False := by
      intro hcs
      obtain ⟨cs', rfl, -⟩ := append_below_eq_cons hcs (by simp)
      exact hstar cs' rfl
    rw [List.cons_append, read.eq_4 _ _ _ hother, hs'']
  | case6 s before rest t rest' hclass ih =>
    obtain ⟨ht, used, rfl, hused⟩ := readClass_ok hclass
    have hsuffix : rest' <:+ '[' :: (used ++ ']' :: rest') := ⟨'[' :: (used ++ [']']), by simp⟩
    obtain ⟨s'', hs'', hbelow⟩ := ih (hs.push ht) (by simp [ht]) (fun h => hlast (h.trans hsuffix)) h
    refine ⟨s'', ?_, hbelow⟩
    rw [List.cons_append, List.append_assoc, List.cons_append, read]
    split
    · rename_i hclass'
      cases (hused _).symm.trans hclass'
      exact hs''
    · rename_i hclass'
      cases (hused _).symm.trans hclass'
  | case7 => cases h
  | case8 s before rest ih =>
    obtain ⟨s'', hs'', hbelow⟩ := ih hs.openGroup (by simp [State.openGroup]) (htail hlast) h
    exact ⟨s'', by rw [List.cons_append, read, hs''], hbelow⟩
  | case9 s before rest s₁ hclose ih =>
    have hcurrent : s₁.current ≠ [.anyPrefix] := by
      unfold State.closeGroup at hclose
      split at hclose
      · cases hclose
      · cases hclose
        simp
    obtain ⟨s'', hs'', hbelow⟩ := ih (hs.closeGroup hclose) (fun _ => hcurrent) (htail hlast) h
    refine ⟨s'', ?_, hbelow⟩
    rw [List.cons_append, read, hclose]
    exact hs''
  | case10 => cases h
  | case11 s before rest ih =>
    have hcurrent : s.nextBranch.current ≠ [.anyPrefix] := by
      unfold State.nextBranch
      split <;> simp
    obtain ⟨s'', hs'', hbelow⟩ := ih hs.nextBranch (fun _ => hcurrent) (htail hlast) h
    exact ⟨s'', by rw [List.cons_append, read, hs''], hbelow⟩
  | case12 => cases h
  | case13 s before c rest ih =>
    obtain ⟨s'', hs'', hbelow⟩ := ih (hs.push (by simp)) (by simp) (htail (htail hlast)) h
    exact ⟨s'', by rw [List.cons_append, List.cons_append, read, hs''], hbelow⟩
  | case14 s before c rest hany hstars hstar hclass hopen hclose hcomma hlone hescape ih =>
    obtain ⟨s'', hs'', hbelow⟩ := ih (hs.push (by simp)) (by simp) (htail hlast) h
    refine ⟨s'', ?_, hbelow⟩
    have hbackslash : c = '\\' → False := by
      intro hc
      cases rest with
      | nil => exact hlone hc rfl
      | cons d rest => exact hescape d rest hc rfl
    rw [List.cons_append, read.eq_11 _ _ _ _ hany (fun _ hc _ => hstar hc) hstar hclass hopen hclose hcomma
      (fun hc _ => hbackslash hc) (fun _ _ hc _ => hbackslash hc), hs'']

/-- With `/**` behind it, a glob stands for all that is below, and is else unchanged. -/
theorem parse_below {text : String} (hlast : ¬['/'] <:+ text.toList) (h : parse text = .ok g) :
    ∃ g', parse (text ++ "/**") = .ok g' ∧
      ((g ≠ [.anyPrefix] ∧ g' = g ++ [.anySuffix]) ∨ (g' = g ∧ Downward g)) := by
  obtain ⟨s, hs, hframes, rfl⟩ := parse_eq_ok_iff.mp h
  obtain ⟨s', hs', hframes', hcurrent⟩ := read_below State.rooted_start (by simp) hlast hs
  refine ⟨s'.current.reverse, parse_eq_ok_iff.mpr ⟨s', ?_, hframes'.trans hframes, rfl⟩, ?_⟩
  · rw [String.toList_append]
    exact hs'
  · rcases hcurrent with ⟨hne, hcurrent⟩ | ⟨hcurrent, hbelow⟩
    · exact .inl ⟨fun hg => hne (List.reverse_eq_iff.mp hg), by rw [hcurrent, List.reverse_cons]⟩
    · exact .inr ⟨by rw [hcurrent], hbelow.downward⟩

/-- Whatever stands before `/**`, the glob stands for all that is below something. -/
theorem downward_of_parse_below {text : String} (h : parse (text ++ "/**") = .ok g) : Downward g := by
  obtain ⟨s, hs, -, rfl⟩ := parse_eq_ok_iff.mp h
  rw [String.toList_append] at hs
  exact (endsBelow_of_read State.rooted_start hs).downward

/-! ## At any depth -/

theorem State.length_frames_nextBranch (s : State) : s.nextBranch.frames.length = s.frames.length := by
  unfold nextBranch
  split <;> simp [*]

theorem State.closeGroup_ok_iff {n : Nat} :
    (∃ s', s.closeGroup = .ok s' ∧ s'.frames.length = n) ↔ s.frames.length = n + 1 := by
  unfold closeGroup
  split <;> simp [*]

/-- Whether a text without slashes can be read depends on the number of open groups alone. -/
theorem read_beside {s₁ : State} {b₁ : Option Char} (h : read s₁ b₁ cs = .ok s') (hslash : '/' ∉ cs) (s₂ : State)
    (b₂ : Option Char) (hframes : s₂.frames.length = s₁.frames.length) :
    ∃ s'', read s₂ b₂ cs = .ok s'' ∧ s''.frames.length = s'.frames.length := by
  fun_induction read s₁ b₁ cs generalizing s₂ b₂ with
  | case1 s b =>
    cases h
    exact ⟨s₂, read.eq_1 s₂ b₂, hframes⟩
  | case2 s b rest ih =>
    rw [read]
    exact ih h (by simpa using hslash) _ _ hframes
  | case3 s b rest s₁ hstars ih =>
    have hhead := State.after_of_pushDoubleStar hstars rfl
    exact absurd (List.mem_of_mem_head? hhead) (by simpa using hslash)
  | case4 s b rest s₁ hstars ih =>
    have hrest : '/' ∉ rest := by simpa using hslash
    rw [read]
    cases hstars₂ : s₂.pushDoubleStar b₂ rest.head? with
    | mk s₃ flag =>
      have hlength : s₃.frames.length = s₁.frames.length := by
        rw [State.frames_of_pushDoubleStar hstars, State.frames_of_pushDoubleStar hstars₂, hframes]
      cases flag with
      | true =>
        have hhead := State.after_of_pushDoubleStar hstars₂ rfl
        exact absurd (List.mem_of_mem_head? hhead) hrest
      | false => exact ih h hrest _ _ hlength
  | case5 s b rest hstar ih =>
    rw [read.eq_4 _ _ _ hstar]
    exact ih h (by simpa using hslash) _ _ hframes
  | case6 s b rest t rest' hclass ih =>
    obtain ⟨-, used, rfl, -⟩ := readClass_ok hclass
    rw [read]
    split
    · rename_i hclass'
      cases hclass.symm.trans hclass'
      refine ih h (fun hmem => hslash ?_) _ _ hframes
      simp [hmem]
    · rename_i hclass'
      cases hclass.symm.trans hclass'
  | case7 => cases h
  | case8 s b rest ih =>
    rw [read]
    exact ih h (by simpa using hslash) _ _ (congrArg (· + 1) hframes)
  | case9 s b rest s₁ hclose ih =>
    have hlength := State.closeGroup_ok_iff.mp ⟨s₁, hclose, rfl⟩
    obtain ⟨s₃, hclose₃, hlength₃⟩ := State.closeGroup_ok_iff.mpr (hframes.trans hlength)
    rw [read, hclose₃]
    exact ih h (by simpa using hslash) _ _ hlength₃
  | case10 => cases h
  | case11 s b rest ih =>
    rw [read]
    refine ih h (by simpa using hslash) _ _ ?_
    rw [State.length_frames_nextBranch, State.length_frames_nextBranch, hframes]
  | case12 => cases h
  | case13 s b c rest ih =>
    rw [read]
    refine ih h (fun hmem => hslash ?_) _ _ hframes
    simp [hmem]
  | case14 s b c rest hany hstars hstar hclass hopen hclose hcomma hlone hescape ih =>
    rw [read.eq_11 _ _ _ _ hany hstars hstar hclass hopen hclose hcomma hlone hescape]
    refine ih h (fun hmem => hslash ?_) _ _ hframes
    simp [hmem]

/-- With `**` and a slash before it, a glob without slashes is still a glob. -/
theorem parse_anywhere {text : String} (hslash : '/' ∉ text.toList) (h : parse text = .ok g) :
    ∃ g', parse ("**/" ++ text) = .ok g' := by
  obtain ⟨s, hs, hframes, -⟩ := parse_eq_ok_iff.mp h
  obtain ⟨s', hs', hlength⟩ := read_beside hs hslash ⟨[.anyPrefix], []⟩ (some '/') rfl
  refine ⟨s'.current.reverse, parse_eq_ok_iff.mpr ⟨s', ?_, ?_, rfl⟩⟩
  · rw [String.toList_append, ← hs']
    show read {} none ('*' :: '*' :: '/' :: text.toList) = _
    rw [read]
    rfl
  · rw [hframes, List.length_nil] at hlength
    exact List.eq_nil_of_length_eq_zero hlength

end SourceAudit.Glob
