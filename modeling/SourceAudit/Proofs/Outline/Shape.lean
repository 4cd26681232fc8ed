import SourceAudit.Outline.Candidate
import SourceAudit.Proofs.Outline.Mask
import SourceAudit.Proofs.Regex.Alphabet
import SourceAudit.Proofs.Regex.Groups

/-!
# Where the shapes of code match

* `grouped_functionShape`, … : the groups of the shapes are proper groups;
* `takes_name`, `takes_dottedName` : a name starts and ends with characters other than spaces;
* `call_match` : a call starts with a name and ends with its opening parenthesis;
* `member_match` : a member starts and ends with characters other than spaces;
* `assignment_match` : the target of an assignment comes before the value, and only blanks stand between the equals
  sign and the value.
-/

namespace SourceAudit.Outline

open Regex
open Text (byteLength IsBoundary IsEdge)

variable {p q : Cursor} {mask : List Char} {m : Match}

/-! ## Groups -/

theorem grouped_functionShape : functionShape.grouped = true := by decide

theorem grouped_importShape : importShape.grouped = true := by decide

theorem grouped_assignmentShape : assignmentShape.grouped = true := by decide

theorem grouped_callShape : callShape.grouped = true := by decide

theorem groupSpan?_liesIn {r : Regex} {cs : List Char} {i : Nat} {s : Span} (hr : r.grouped = true) (h : Matches r cs m)
    (hs : groupSpan? m i = some s) : s.LiesIn cs := by
  obtain ⟨⟨start, stop⟩, hg, rfl⟩ := Option.map_eq_some_iff.1 hs
  exact h.group_span hr hg

theorem groupSpan?_of_lookup {i start stop : Nat} (h : m.slots.lookup (2 * i) = some start)
    (h' : m.slots.lookup (2 * i + 1) = some stop) : groupSpan? m i = some ⟨start, stop⟩ := by
  rw [groupSpan?, Match.group?, h, h']
  rfl

/-! ## Names -/

/-- A character other than a space follows. -/
def ShowsAhead (p : Cursor) : Prop := ∃ c rest, p.right = c :: rest ∧ c ≠ ' '

/-- A character other than a space has just been taken. -/
def ShowsBehind (p : Cursor) : Prop := ∃ c rest, p.left = c :: rest ∧ c ≠ ' '

theorem ShowsAhead.isEdge (h : ShowsAhead p) : IsEdge p.text p.offset := by
  obtain ⟨c, rest, hp, hc⟩ := h
  refine ⟨p.left.reverse, c, rest, ?_, hc, .inl (Text.byteLength_reverse _)⟩
  rw [Cursor.text, hp]

theorem ShowsBehind.isEdge (h : ShowsBehind p) : IsEdge p.text p.offset := by
  obtain ⟨c, rest, hp, hc⟩ := h
  refine ⟨rest.reverse, c, p.right, ?_, hc, .inr ?_⟩
  · rw [Cursor.text, hp, List.reverse_cons, List.append_assoc, List.singleton_append]
  · rw [Cursor.offset, hp, Text.byteLength_reverse, Text.byteLength_cons, Nat.add_comm]

theorem takes_set_shows {chars : CharSet} (hc : chars.mem ' ' = false) (h : Takes (set chars) p q) :
    ShowsAhead p ∧ ShowsBehind q := by
  obtain ⟨c, rest, hp, hm, rfl⟩ := h
  have hne : c ≠ ' ' := by
    rintro rfl
    exact absurd hm (by rw [hc]; decide)
  exact ⟨⟨c, rest, hp, hne⟩, ⟨c, p.left, rfl, hne⟩⟩

/-- A repetition stays where it is or ends with a round. -/
theorem takes_rep_last {a : Regex} {min : Nat} {max : Option Nat} {greedy : Bool}
    (h : Takes (rep a min max greedy) p q) :
    q = p ∨ ∃ n, Takes a n q := by
  obtain ⟨k, -, -, h⟩ := h
  refine h.along (P := fun p q => q = p ∨ ∃ n, Takes a n q) (fun _ => .inl rfl) ?_
  rintro p n q hn (rfl | hq)
  · exact .inr ⟨p, hn⟩
  · exact .inr hq

theorem takes_name (h : Takes name p q) : ShowsAhead p ∧ ShowsBehind q := by
  obtain ⟨n, hn, hq⟩ := h
  have hfirst := takes_set_shows (by decide) hn
  refine ⟨hfirst.1, ?_⟩
  rcases takes_rep_last hq with rfl | ⟨n, hn⟩
  · exact hfirst.2
  · exact (takes_set_shows (by decide) hn).2

theorem takes_dotName (h : Takes dotName p q) : ShowsBehind q := by
  obtain ⟨n, -, hq⟩ := h
  exact (takes_name hq).2

theorem takes_dottedName (h : Takes dottedName p q) : ShowsAhead p ∧ ShowsBehind q := by
  obtain ⟨n, hn, hq⟩ := h
  refine ⟨(takes_name hn).1, ?_⟩
  rcases takes_rep_last hq with rfl | ⟨n', hn'⟩
  · exact (takes_name hn).2
  · exact takes_dotName hn'

def Span.NamesIn (s : Span) (mask : List Char) : Prop :=
  ∃ p q : Cursor, p.text = mask ∧ p.offset = s.start ∧ q.offset = s.stop ∧ Takes dottedName p q

theorem Span.NamesIn.isEdge {s : Span} (h : s.NamesIn mask) : IsEdge mask s.start := by
  obtain ⟨p, q, rfl, hstart, -, hname⟩ := h
  exact hstart ▸ (takes_dottedName hname).1.isEdge

theorem Span.NamesIn.start_le_stop {s : Span} (h : s.NamesIn mask) : s.start ≤ s.stop := by
  obtain ⟨p, q, -, hstart, hstop, hname⟩ := h
  exact hstart ▸ hstop ▸ hname.offset_le

theorem takes_word {s : String} (c : Char) (hs : s.toList = [c]) (h : Takes (word s) p q) :
    ∃ rest, p.right = c :: rest ∧ q = ⟨c :: p.left, rest, p.slots⟩ := by
  rw [word, hs] at h
  obtain ⟨d, rest, hp, hd, rfl⟩ := h
  obtain rfl := mem_single.1 hd
  exact ⟨rest, hp, rfl⟩

theorem takes_rep_set {chars : CharSet} {min : Nat} {max : Option Nat} {greedy : Bool}
    (h : Takes (rep (set chars) min max greedy) p q) :
    ∃ w, (∀ c ∈ w, chars.mem c = true) ∧ p.right = w ++ q.right ∧ q.left = w.reverse ++ p.left := by
  obtain ⟨k, -, -, h⟩ := h
  refine h.along (P := fun p q => ∃ w, (∀ c ∈ w, chars.mem c = true) ∧ p.right = w ++ q.right ∧
    q.left = w.reverse ++ p.left) (fun p => ⟨[], nofun, rfl, rfl⟩) ?_
  rintro p n q ⟨c, rest, hp, hc, rfl⟩ ⟨w, hw, hr, hl⟩
  refine ⟨c :: w, ?_, ?_, ?_⟩
  · exact List.forall_mem_cons.2 ⟨hc, hw⟩
  · rw [hp, show rest = w ++ q.right from hr, List.cons_append]
  · rw [hl, List.reverse_cons, List.append_assoc, List.singleton_append]

/-! ## Members and calls -/

theorem member_match (h : Matches memberShape mask m) :
    IsEdge mask m.start ∧ IsEdge mask m.stop ∧ m.start ≤ m.stop := by
  obtain ⟨p, q, rfl, -, ht, rfl⟩ := h
  have hlast : ShowsBehind q := by
    obtain ⟨n, hn, hq⟩ := ht
    rcases takes_rep_last hq with rfl | ⟨n', hn'⟩
    · exact (takes_name hn).2
    · exact takes_dotName hn'
  have hfirst : ShowsAhead p := by
    obtain ⟨n, hn, -⟩ := ht
    exact (takes_name hn).1
  exact ⟨hfirst.isEdge, ht.text_eq ▸ hlast.isEdge, ht.offset_le⟩

/-- A call starts with the name of what is called and ends with an opening parenthesis. -/
theorem call_match (h : Matches callShape mask m) :
    ∃ a b callee, mask = a ++ '(' :: b ∧ m.stop = byteLength a + 1 ∧ groupSpan? m 1 = some callee ∧
      callee.stop ≤ byteLength a ∧ callee.NamesIn mask := by
  obtain ⟨p, q, rfl, -, ht, rfl⟩ := h
  have htext := ht.text_eq
  obtain ⟨n, hn, n', hn', hparen⟩ := ht
  obtain ⟨rest, -, rfl⟩ := takes_word '(' rfl hparen
  obtain ⟨k, hk, hleft, -, hstart, hstop⟩ := takes_group_lookup hn (by decide)
  refine ⟨n'.left.reverse, rest, ⟨p.offset, k.offset⟩, ?_, ?_, ?_, ?_, p.note 2, k, rfl, rfl, rfl, hk⟩
  · rw [← htext, Cursor.text, List.reverse_cons, List.append_assoc, List.singleton_append]
  · rw [Text.byteLength_reverse, Nat.add_comm]
    rfl
  · refine groupSpan?_of_lookup ?_ ?_
    · exact (hn'.lookup_eq _ (by decide)).trans hstart
    · exact (hn'.lookup_eq _ (by decide)).trans hstop
  · show k.offset ≤ _
    rw [Text.byteLength_reverse, Cursor.offset, ← hleft]
    exact hn'.offset_le

/-! ## Assignments -/

/-- The target of an assignment is a name before the value, and only blanks stand between the equals sign and the
value. -/
theorem assignment_match (h : Matches assignmentShape mask m) :
    ∃ target value a gap b, groupSpan? m 1 = some target ∧ groupSpan? m 2 = some value ∧ target.NamesIn mask ∧
      target.stop < value.start ∧ mask = a ++ '=' :: (gap ++ b) ∧ (∀ c ∈ gap, Text.isBlank c = true) ∧
      value.start = byteLength (a ++ '=' :: gap) := by
  obtain ⟨p, q, rfl, -, ht, rfl⟩ := h
  obtain ⟨p₁, h₁, p₂, h₂, p₃, h₃, p₄, htarget, hrest⟩ := ht
  obtain ⟨t, ht, hleft, -, htstart, htstop⟩ := takes_group_lookup htarget (by decide)
  have hl := hrest.lookup_eq 2 (by decide)
  have hr := hrest.lookup_eq 3 (by decide)
  obtain ⟨p₅, h₅, p₆, h₆, p₇, h₇, p₈, hequals, p₉, hgap, p₁₀, hvalue, hend⟩ := hrest
  obtain ⟨rest, hright, rfl⟩ := takes_word '=' rfl hequals
  obtain ⟨v, hv, -, -, hvstart, hvstop⟩ := takes_group_lookup hvalue (by decide)
  obtain ⟨gap, hblank, hgr, hgl⟩ := takes_rep_set hgap
  have htext : p₇.text = p.text := by
    rw [h₇.text_eq, h₆.text_eq, h₅.text_eq, htarget.text_eq, h₃.text_eq, h₂.text_eq, h₁.text_eq]
  have hle : t.offset ≤ p₇.offset := by
    rw [Cursor.offset, ← hleft]
    exact Nat.le_trans h₅.offset_le (Nat.le_trans h₆.offset_le h₇.offset_le)
  have hoffset : p₉.offset = byteLength (p₇.left.reverse ++ '=' :: gap) := by
    rw [Cursor.offset, hgl]
    simp only [Text.byteLength_append, Text.byteLength_reverse, Text.byteLength_cons]
    omega
  refine ⟨⟨p₃.offset, t.offset⟩, ⟨p₉.offset, v.offset⟩, p₇.left.reverse, gap, p₉.right, ?_, ?_, ?_, ?_, ?_, hblank, ?_⟩
  · exact groupSpan?_of_lookup (hl.trans htstart) (hr.trans htstop)
  · exact groupSpan?_of_lookup ((hend.lookup_eq 4 (by decide)).trans hvstart)
      ((hend.lookup_eq 5 (by decide)).trans hvstop)
  · refine ⟨p₃.note 2, t, ?_, rfl, rfl, ht⟩
    rw [← h₁.text_eq, ← h₂.text_eq, ← h₃.text_eq]
    rfl
  · calc t.offset ≤ byteLength p₇.left := hle
      _ < byteLength (p₇.left.reverse ++ '=' :: gap) := by
        rw [Text.byteLength_append, Text.byteLength_reverse, Text.byteLength_cons]
        have := Char.utf8Size_pos '='
        omega
      _ = p₉.offset := hoffset.symm
  · rw [← htext, Cursor.text, hright, ← hgr]
  · exact hoffset

end SourceAudit.Outline
