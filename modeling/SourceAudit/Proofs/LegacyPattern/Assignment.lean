import SourceAudit.Proofs.LegacyPattern.Mention
import SourceAudit.Proofs.Outline.Shape
import SourceAudit.Proofs.Text.Blank

/-!
# Assignments to variables

* `AssignmentParts` : the parts of a line that assigns a variable;
* `variable_match` : a match splits a line into such parts, and its groups are the variable and the value;
* `assigned?_isVariable` : what is assigned is a variable;
* `assigned?_plain` : an equals sign between a variable and a value makes an assignment.
-/

namespace SourceAudit.LegacyPattern

open Regex Outline
open Text (byteLength)

variable {p q : Cursor} {m : Match} {line v value : List Char}

/-! ## Characters of names -/

theorem Continues.not_blank {c : Char} (h : Continues c) : Text.isBlank c = false := by
  rw [Bool.eq_false_iff]
  intro hblank
  have hcodes : ∀ n ∈ Text.blankCodes, (CharSet.union .word (.single '$')).mem (Char.ofNat n) = false := by
    decide +kernel
  have hmem := Text.eq_false_of_isBlank hcodes hblank
  rw [mem_continues.mpr h] at hmem
  cases hmem

theorem not_continues_of_blank {c : Char} (h : Text.isBlank c = true) : ¬Continues c := by
  intro hc
  rw [hc.not_blank] at h
  cases h

theorem not_continues_equals : ¬Continues '=' := mem_nameBreak.mp (by decide +kernel)

theorem not_continues_colon : ¬Continues ':' := mem_nameBreak.mp (by decide +kernel)

def nameStart : CharSet := .unions [.span 'A' 'Z', .span 'a' 'z', .single '_', .single '$']

theorem continues_of_nameStart {c : Char} (h : nameStart.mem c = true) : Continues c := by
  have hsmall : c.toNat < 128 := by
    simp only [nameStart, CharSet.unions, CharSet.mem, CharSet.span, CharSet.single, Bool.or_eq_true, Bool.and_eq_true,
      decide_eq_true_iff, Char.reduceToNat] at h
    omega
  have hcodes : ∀ n < 128, nameStart.mem (Char.ofNat n) = true →
      (CharSet.union .word (.single '$')).mem (Char.ofNat n) = true := by decide +kernel
  rw [← Char.ofNat_toNat c] at h ⊢
  exact mem_continues.mp (hcodes c.toNat hsmall h)

theorem isVariable_cons {c : Char} {w : List Char} (hc : nameStart.mem c = true) (hw : ∀ x ∈ w, Continues x) :
    IsVariable (c :: w) := ⟨List.cons_ne_nil c w, List.forall_mem_cons.mpr ⟨continues_of_nameStart hc, hw⟩⟩

theorem takes_name_isVariable (h : Takes name p q) :
    ∃ w, IsVariable w ∧ p.right = w ++ q.right ∧ q.left = w.reverse ++ p.left := by
  obtain ⟨n, ⟨c, rest, hp, hc, rfl⟩, hq⟩ := h
  obtain ⟨w, hw, hright, hleft⟩ := takes_rep_set hq
  refine ⟨c :: w, isVariable_cons hc fun d hd => mem_continues.mp (hw d hd), ?_, ?_⟩
  · rw [hp, show rest = w ++ q.right from hright, List.cons_append]
  · rw [hleft, List.reverse_cons, List.append_assoc, List.singleton_append]

/-- Two texts of characters of names that are followed by other characters are the same if they start one text. -/
theorem continues_unique {u w r s : List Char} {c d : Char} (h : u ++ c :: r = w ++ d :: s) (hu : ∀ x ∈ u, Continues x)
    (hw : ∀ x ∈ w, Continues x) (hc : ¬Continues c) (hd : ¬Continues d) : u = w ∧ c = d ∧ r = s := by
  rcases List.append_eq_append_iff.mp h with ⟨e, rfl, he⟩ | ⟨e, rfl, he⟩
  · cases e with
    | nil =>
      cases he
      exact ⟨(List.append_nil u).symm, rfl, rfl⟩
    | cons x e =>
      cases he
      exact absurd (hw c (by simp)) hc
  · cases e with
    | nil =>
      cases he
      exact ⟨List.append_nil w, rfl, rfl⟩
    | cons x e =>
      cases he
      exact absurd (hu d (by simp)) hd

/-! ## Parts of an assignment -/

/-- The parts of a line that assigns a variable. -/
structure AssignmentParts where
  lead : List Char
  /-- A word before the variable and the blanks behind it, or nothing. -/
  keyword : List Char
  target : List Char
  gap : List Char
  /-- A type with its colon, or nothing. -/
  type : List Char
  beforeEquals : List Char
  afterEquals : List Char
  value : List Char
  lead_blank : ∀ c ∈ lead, Text.isBlank c = true
  keyword_spec : keyword = [] ∨
    ∃ word c rest, keyword = word ++ c :: rest ∧ (∀ d ∈ word, Continues d) ∧ Text.isBlank c = true
  target_isVariable : IsVariable target
  gap_blank : ∀ c ∈ gap, Text.isBlank c = true
  type_spec : type = [] ∨ ∃ rest, type = ':' :: rest
  beforeEquals_blank : ∀ c ∈ beforeEquals, Text.isBlank c = true
  afterEquals_blank : ∀ c ∈ afterEquals, Text.isBlank c = true

def AssignmentParts.text (s : AssignmentParts) : List Char :=
  s.lead ++ (s.keyword ++ (s.target ++ (s.gap ++ (s.type ++ (s.beforeEquals ++ '=' :: (s.afterEquals ++ s.value))))))

theorem groupText?_of_takes {i : Nat} {a : Regex} (h : Takes (group i a) p q) (ha : 2 * i ∉ a.marks)
    (hstart : m.slots.lookup (2 * i) = q.slots.lookup (2 * i))
    (hstop : m.slots.lookup (2 * i + 1) = q.slots.lookup (2 * i + 1)) :
    ∃ w n, Takes a (p.note (2 * i)) n ∧ n.left = q.left ∧ n.right = q.right ∧ p.right = w ++ q.right ∧
      q.left = w.reverse ++ p.left ∧ groupText? p.text m i = some w := by
  obtain ⟨n, hn, hleft, hright, hs, ht⟩ := takes_group_lookup h ha
  obtain ⟨w, hw, hw'⟩ := h.moves
  refine ⟨w, n, hn, hleft.symm, hright.symm, hw, hw', ?_⟩
  rw [groupText?, Match.group?, hstart, hs, hstop, ht]
  refine Text.slice?_eq_some_iff.mpr ⟨p.left.reverse, q.right, ?_, Text.byteLength_reverse _, ?_⟩
  · rw [Cursor.text, hw]
  · rw [Cursor.offset, Cursor.offset, ← hleft, hw', Text.byteLength_append, Text.byteLength_reverse, Nat.add_comm]

theorem takes_leading_keyword (h : Takes (leading (oneOf ["const", "let", "var", "final", "auto"])) p q) :
    ∃ keyword, p.right = keyword ++ q.right ∧ (keyword = [] ∨
      ∃ word c rest, keyword = word ++ c :: rest ∧ (∀ d ∈ word, Continues d) ∧ Text.isBlank c = true) := by
  rcases takes_opt h with rfl | ⟨n, hword, hblanks⟩
  · exact ⟨[], rfl, .inl rfl⟩
  · have hsets : ∀ chars ∈ (oneOf ["const", "let", "var", "final", "auto"]).sets,
        chars ∈ "acefilnorstuv".toList.map CharSet.single := by decide +kernel
    have hall : "acefilnorstuv".toList.all isWord = true := by decide +kernel
    obtain ⟨word, hp, -, hletters⟩ := hword.alphabet (P := Continues) fun chars hchars c hc => by
      obtain ⟨d, hd, rfl⟩ := List.mem_map.mp (hsets chars hchars)
      rw [mem_single.mp hc]
      exact .inl (List.all_eq_true.mp hall d hd)
    obtain ⟨k, hk, -, hrounds⟩ := hblanks
    cases k with
    | zero => rcases hk with hk | hk <;> cases hk
    | succ k =>
      obtain ⟨_, ⟨c, rest, hn, hc, rfl⟩, hrounds⟩ := hrounds
      obtain ⟨w, hw, -⟩ := Takes.moves (r := star (set .blank)) ⟨k, .inl (Nat.zero_le k), nofun, hrounds⟩
      refine ⟨word ++ c :: w, ?_, .inr ⟨word, c, w, rfl, hletters, hc⟩⟩
      rw [hp, hn, show rest = w ++ q.right from hw, List.append_assoc, List.cons_append]

theorem takes_opt_type (h : Takes (opt (seqs [word ":", blanks, rep (set (.compl (.single '='))) 1 none false])) p q) :
    ∃ type, p.right = type ++ q.right ∧ (type = [] ∨ ∃ rest, type = ':' :: rest) := by
  rcases takes_opt h with rfl | ⟨n, hcolon, hrest⟩
  · exact ⟨[], rfl, .inl rfl⟩
  · obtain ⟨rest, hp, rfl⟩ := takes_word ':' rfl hcolon
    obtain ⟨w, hw, -⟩ := Takes.moves (r := seqs [blanks, rep (set (.compl (.single '='))) 1 none false]) hrest
    refine ⟨':' :: w, ?_, .inr ⟨w, rfl⟩⟩
    rw [hp, show rest = w ++ q.right from hw, List.cons_append]

theorem variable_match (h : Matches variableShape line m) :
    ∃ s : AssignmentParts, s.text = line ∧ groupText? line m 1 = some s.target ∧
      groupText? line m 2 = some s.value := by
  obtain ⟨p, q, rfl, -, ⟨p₁, hstart, p₂, hlead, p₃, hkeyword, p₄, htarget, hrest⟩, rfl⟩ := h
  obtain ⟨hleft, rfl⟩ := takes_startText hstart
  have htext : p₃.text = p₁.text := hkeyword.text_eq.trans hlead.text_eq
  obtain ⟨v, n, hn, -, hnr, hv, -, hgroup⟩ :=
    groupText?_of_takes (m := ⟨p₁.offset, q.offset, q.slots⟩) htarget (by decide)
    (hrest.lookup_eq _ (by decide)) (hrest.lookup_eq _ (by decide))
  obtain ⟨p₅, hgap, p₆, htype, p₇, hbefore, p₈, hequals, p₉, hafter, p₁₀, hvalue, hend⟩ := hrest
  obtain ⟨value, -, -, -, -, hvalue', -, hgroup'⟩ := groupText?_of_takes (m := ⟨p₁.offset, q.offset, q.slots⟩) hvalue
    (by decide) (hend.lookup_eq _ (by decide)) (hend.lookup_eq _ (by decide))
  have htext' : p₉.text = p₁.text := by
    rw [hafter.text_eq, hequals.text_eq, hbefore.text_eq, htype.text_eq, hgap.text_eq, htarget.text_eq, htext]
  obtain ⟨lead, hleadb, hlead, -⟩ := takes_rep_set hlead
  obtain ⟨keyword, hkeyword', hkeywords⟩ := takes_leading_keyword hkeyword
  obtain ⟨w, hw, hwr, -⟩ := takes_name_isVariable hn
  obtain ⟨gap, hgapb, hgap, -⟩ := takes_rep_set hgap
  obtain ⟨type, htype', htypes⟩ := takes_opt_type htype
  obtain ⟨before, hbeforeb, hbefore, -⟩ := takes_rep_set hbefore
  obtain ⟨rest, hequals', rfl⟩ := takes_word '=' rfl hequals
  obtain ⟨after, hafterb, hafter, -⟩ := takes_rep_set hafter
  obtain rfl : w = v := List.append_cancel_right ((hwr.symm.trans hv).trans (by rw [hnr]))
  refine ⟨⟨lead, keyword, w, gap, type, before, after, value, hleadb, hkeywords, hw, hgapb, htypes, hbeforeb, hafterb⟩,
    ?_, htext ▸ hgroup, htext' ▸ hgroup'⟩
  show lead ++ (keyword ++ (w ++ (gap ++ (type ++ (before ++ '=' :: (after ++ value)))))) = p₁.text
  rw [takes_endText hend, List.append_nil] at hvalue'
  rw [Cursor.text, hleft, List.reverse_nil, List.nil_append, hlead, hkeyword', hv, hgap, htype', hbefore, hequals',
    show rest = after ++ p₉.right from hafter, hvalue']

theorem assigned?_isVariable (h : assigned? line = some (v, value)) : IsVariable v := by
  obtain ⟨m, hm, h⟩ := Option.bind_eq_some_iff.mp h
  obtain ⟨s, -, htarget, hvalue⟩ := variable_match (find?_matches hm)
  rw [htarget, hvalue] at h
  cases h
  exact s.target_isVariable

/-! ## Plain assignments -/

/-- A variable, an equals sign and a value that starts with no blank have no other parts. -/
theorem AssignmentParts.eq_of_plain (s : AssignmentParts) (hv : IsVariable v)
    (hvalue : ∀ c, value.head? = some c → Text.isBlank c = false) (h : s.text = v ++ '=' :: value) :
    s.target = v ∧ s.value = value := by
  have hequals : Text.isBlank '=' = false := by decide
  obtain ⟨lead, keyword, target, gap, type, before, after, value', hlead, hkeyword, htarget, hgap, htype, hbefore,
    hafter⟩ := s
  simp only [AssignmentParts.text] at h ⊢
  have hlead : lead = [] := by
    cases lead with
    | nil => rfl
    | cons x lead =>
      cases v with
      | nil => exact absurd rfl hv.ne_nil
      | cons c v =>
        obtain ⟨rfl, -⟩ := List.cons_eq_cons.mp h
        exact absurd (hv.continues x List.mem_cons_self) (not_continues_of_blank (hlead x List.mem_cons_self))
  have hkeyword : keyword = [] := by
    rcases hkeyword with rfl | ⟨word, c, rest, rfl, hword, hc⟩
    · rfl
    · rw [hlead, List.nil_append, List.append_assoc, List.cons_append] at h
      obtain ⟨-, rfl, -⟩ := continues_unique h hword hv.continues (not_continues_of_blank hc) not_continues_equals
      rw [hequals] at hc
      cases hc
  subst hlead hkeyword
  rw [List.nil_append, List.nil_append] at h
  -- the first character behind the variable is the equals sign, so nothing stands between them
  have hunique {d : Char} {rest : List Char} (hd : ¬Continues d)
      (hrest : gap ++ (type ++ (before ++ '=' :: (after ++ value'))) = d :: rest) : target = v ∧ d = '=' ∧
        rest = value :=
    continues_unique (hrest ▸ h) htarget.continues hv.continues hd not_continues_equals
  have hnone {x : Char} {xs : List Char} (hx : ∀ c ∈ x :: xs, Text.isBlank c = true) : x ≠ '=' := by
    rintro rfl
    rw [hx '=' List.mem_cons_self] at hequals
    cases hequals
  have hgap : gap = [] := by
    cases gap with
    | nil => rfl
    | cons x gap => exact absurd (hunique (not_continues_of_blank (hgap x List.mem_cons_self)) rfl).2.1 (hnone hgap)
  subst hgap
  have htype : type = [] := by
    rcases htype with rfl | ⟨rest, rfl⟩
    · rfl
    · exact absurd (hunique not_continues_colon rfl).2.1 (by decide)
  subst htype
  have hbefore : before = [] := by
    cases before with
    | nil => rfl
    | cons x before =>
      exact absurd (hunique (not_continues_of_blank (hbefore x List.mem_cons_self)) rfl).2.1 (hnone hbefore)
  subst hbefore
  obtain ⟨rfl, -, rfl⟩ := hunique not_continues_equals rfl
  refine ⟨rfl, ?_⟩
  cases after with
  | nil => rfl
  | cons x after =>
    have := hvalue x rfl
    rw [hafter x List.mem_cons_self] at this
    cases this

theorem takes_star_set {chars : CharSet} {w rest : List Char} (hw : ∀ c ∈ w, chars.mem c = true)
    (hp : p.right = w ++ rest) :
    Takes (star (set chars)) p ⟨w.reverse ++ p.left, rest, p.slots⟩ := by
  induction w generalizing p with
  | nil =>
    obtain rfl : p.right = rest := hp
    exact takes_rep_zero true
  | cons c w ih =>
    obtain ⟨hc, hw⟩ := List.forall_mem_cons.mp hw
    have hfirst : Takes (set chars) p ⟨c :: p.left, w ++ rest, p.slots⟩ := ⟨c, w ++ rest, hp, hc, rfl⟩
    have := takes_rep_succ (Nat.zero_le _) hfirst (ih hw rfl)
    rwa [List.reverse_cons, List.append_assoc, List.singleton_append]

/-- An equals sign between a variable and a value makes an assignment. -/
theorem assigned?_plain {c d : Char} {w rest : List Char}
    (hc : nameStart.mem c = true) (hw : ∀ x ∈ w, Continues x) (hd : d ≠ '=') (hblank : Text.isBlank d = false)
    (hrest : '\n' ∉ rest) :
    assigned? (c :: w ++ '=' :: d :: rest) = some (c :: w, d :: rest) := by
  have hname (p : Cursor) (hp : p.right = c :: w ++ '=' :: d :: rest) :
      Takes (group 1 name) p (Cursor.note ⟨w.reverse ++ c :: p.left, '=' :: d :: rest, (p.note 2).slots⟩ 3) := by
    have hstart : Takes (set nameStart) (p.note 2) ⟨c :: p.left, w ++ '=' :: d :: rest, (p.note 2).slots⟩ :=
      ⟨c, _, hp, hc, rfl⟩
    exact takes_group_iff.mpr ⟨_, ⟨_, hstart, takes_star_set (fun x hx => mem_continues.mpr (hw x hx)) rfl⟩, rfl⟩
  have hvalue (p : Cursor) (hp : p.right = d :: rest) :
      Takes (group 2 (seq (set (.compl (.single '='))) (star (set (.compl (.single '\n')))))) p
        (Cursor.note ⟨rest.reverse ++ d :: p.left, [], (p.note 4).slots⟩ 5) := by
    have hcompl {x y : Char} (h : x ≠ y) : (CharSet.compl (.single y)).mem x = true := by
      rw [CharSet.mem, Bool.not_eq_true', ← Bool.not_eq_true, mem_single]
      exact h
    refine takes_group_iff.mpr ⟨_, ⟨⟨d :: p.left, rest, _⟩, ⟨d, rest, hp, hcompl hd, rfl⟩, takes_star_set ?_ ?_⟩, rfl⟩
    · intro x hx
      refine hcompl ?_
      rintro rfl
      exact hrest hx
    · exact (List.append_nil rest).symm
  have hstarts : StartsBehind variableShape (c :: w ++ '=' :: d :: rest) [] :=
    ⟨_, _, rfl, _, ⟨rfl, rfl⟩, _, takes_rep_zero true, _, takes_rep_zero true, _, hname _ rfl, _,
      takes_rep_zero true, _, takes_rep_zero true, _, takes_rep_zero true, _, ⟨'=', d :: rest, rfl, rfl, rfl⟩, _,
      takes_rep_zero true, _,
      hvalue _ rfl, rfl, rfl⟩
  obtain ⟨m, hm⟩ := Option.isSome_iff_exists.mp (find?_isSome_iff.mpr hstarts.exists_match)
  obtain ⟨s, htext, htarget, hvalue⟩ := variable_match (find?_matches hm)
  have hfirst (x : Char) (hx : (d :: rest).head? = some x) : Text.isBlank x = false := by
    cases hx
    exact hblank
  obtain ⟨hs, hs'⟩ := s.eq_of_plain (isVariable_cons hc hw) hfirst htext
  rw [assigned?, hm, Option.bind_some, htarget, hvalue, hs, hs']

end SourceAudit.LegacyPattern
