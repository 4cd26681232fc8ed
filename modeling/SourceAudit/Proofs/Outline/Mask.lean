import SourceAudit.Outline.Mask
import SourceAudit.Proofs.Text.Boundary

/-!
# Masks line up with their lines

* `Span.LiesIn s cs` : the span `s` goes from one boundary of `cs` to a later one; `Span.Covers s n` : it holds the
  offset `n`;
* `Blanked line mask` : `mask` is `line` with some characters blanked out, byte for byte;
* `maskLine_blanked` : a mask is its line blanked out;
* `Blanked.isEdge` : an end of a character that shows in the mask is an end of the same character of the line;
* `Cuts inside line mask`, `maskLine_cuts` : where `mask` can be cut although `line` cannot, nothing but spaces
  follows, or the cut is inside a string;
* `maskLine_strings` : the strings are spans of the line.
-/

namespace SourceAudit.Outline

open Text (byteLength IsBoundary IsEdge)

/-- The span goes from one boundary of a text to a later one. -/
def Span.LiesIn (s : Span) (cs : List Char) : Prop :=
  s.start ≤ s.stop ∧ IsBoundary cs s.start ∧ IsBoundary cs s.stop

def Span.Covers (s : Span) (n : Nat) : Prop := s.start ≤ n ∧ n < s.stop

/-! ## Blanking out -/

/-- A text, and the same text with some characters blanked out byte for byte. -/
inductive Blanked : List Char → List Char → Prop where
  | nil : Blanked [] []
  | keep (c : Char) {line mask : List Char} (h : Blanked line mask) : Blanked (c :: line) (c :: mask)
  | hide (c : Char) {line mask : List Char} (h : Blanked line mask) : Blanked (c :: line) (spaces [c] ++ mask)

theorem spaces_cons (c : Char) (cs : List Char) : spaces (c :: cs) = spaces [c] ++ spaces cs := by
  rw [spaces, spaces, spaces, Text.byteLength_cons, Text.byteLength_cons, List.replicate_append_replicate]
  rfl

theorem byteLength_spaces (cs : List Char) : byteLength (spaces cs) = byteLength cs := by
  rw [spaces, Text.byteLength_replicate, show ' '.utf8Size = 1 from rfl, Nat.mul_one]

theorem eq_space_of_mem_spaces {cs : List Char} {c : Char} (h : c ∈ spaces cs) : c = ' ' := List.eq_of_mem_replicate h

theorem blanked_spaces (cs : List Char) : Blanked cs (spaces cs) := by
  induction cs with
  | nil => exact .nil
  | cons c cs ih =>
    rw [spaces_cons]
    exact .hide c ih

theorem maskFrom_blanked (hash : Bool) (state : ScanState) (before : List Char) (offset : Nat) (cs : List Char) :
    Blanked cs (maskFrom hash state before offset cs).mask := by
  fun_induction maskFrom hash state before offset cs with
  | case1 | case2 => exact .nil
  | case3 before offset c cs hq ih => exact .keep c ih
  | case4 before offset c cs hq hc => exact blanked_spaces (c :: cs)
  | case5 before offset c cs hq hc ih => exact .keep c ih
  | case6 quote start before offset c cs next ih => exact .hide c ih
  | case7 quote start escaped before offset c cs next he hc ih => exact .hide c ih
  | case8 quote start escaped before offset c cs next he hc hq ih => exact .keep c ih
  | case9 quote start escaped before offset c cs next he hc hq ih => exact .hide c ih

theorem maskLine_blanked (hash : Bool) (line : List Char) : Blanked line (maskLine hash line).mask :=
  maskFrom_blanked hash .code [] 0 line

variable {line mask a b : List Char} {c : Char}

theorem Blanked.byteLength_eq (h : Blanked line mask) : byteLength mask = byteLength line := by
  induction h with
  | nil => rfl
  | keep c h ih => rw [Text.byteLength_cons, Text.byteLength_cons, ih]
  | hide c h ih =>
    rw [Text.byteLength_append, byteLength_spaces, Text.byteLength_cons, Text.byteLength_cons, ih, Text.byteLength_nil,
      Nat.add_zero]

/-- A character that shows in the mask is the same character at the same place of the line. -/
theorem Blanked.split_of_ne_space (h : Blanked line mask) (hm : mask = a ++ c :: b) (hc : c ≠ ' ') :
    ∃ a' b', line = a' ++ c :: b' ∧ Blanked a' a ∧ Blanked b' b := by
  induction h generalizing a with
  | nil => simp at hm
  | keep d h ih =>
    rcases List.cons_eq_append_iff.1 hm with ⟨rfl, hb⟩ | ⟨a, rfl, htail⟩
    · cases hb
      exact ⟨[], _, rfl, .nil, h⟩
    · obtain ⟨a', b', rfl, ha, hb⟩ := ih htail
      exact ⟨d :: a', b', rfl, .keep d ha, hb⟩
  | hide d h ih =>
    rcases List.append_eq_append_iff.1 hm with ⟨a, rfl, htail⟩ | ⟨e, he, htail⟩
    · obtain ⟨a', b', rfl, ha, hb⟩ := ih htail
      exact ⟨d :: a', b', rfl, .hide d ha, hb⟩
    · cases e with
      | nil =>
        obtain ⟨a', b', rfl, ha, hb⟩ := @ih [] htail.symm
        refine ⟨d :: a', b', rfl, ?_, hb⟩
        rw [List.append_nil] at he
        rw [← he, ← List.append_nil (spaces [d])]
        exact .hide d ha
      | cons x e =>
        obtain ⟨rfl, -⟩ := List.cons.inj htail
        have hx : c ∈ spaces [d] := he ▸ List.mem_append_right a List.mem_cons_self
        exact absurd (eq_space_of_mem_spaces hx) hc

/-- An end of a character that shows in the mask is an end of the same character of the line. -/
theorem Blanked.isEdge (h : Blanked line mask) {n : Nat} (hn : IsEdge mask n) : IsEdge line n := by
  obtain ⟨a, c, b, hm, hc, hn⟩ := hn
  obtain ⟨a', b', hl, ha, -⟩ := h.split_of_ne_space hm hc
  exact ⟨a', c, b', hl, hc, ha.byteLength_eq ▸ hn⟩

/-! ## Cuts of the mask -/

def ScanState.inside : ScanState → Bool
  | .code => false
  | .string .. => true

/-- The text ends with a quotation mark and spaces, or, inside a string, it may be spaces only. -/
def AfterQuote (inside : Bool) (cs : List Char) : Prop :=
  (∃ lead quote n, cs = lead ++ quote :: List.replicate n ' ' ∧ isQuote quote = true) ∨
    inside = true ∧ ∃ n, cs = List.replicate n ' '

/-- Where a mask can be cut, the line can be cut too, or nothing but spaces follows, or it is inside a string. -/
def Cuts (inside : Bool) (line mask : List Char) : Prop :=
  ∀ a b, mask = a ++ b → IsBoundary line (byteLength a) ∨ (∀ c ∈ b, c = ' ') ∨ AfterQuote inside a

theorem Cuts.nil {inside : Bool} : Cuts inside [] [] := by
  intro a b h
  obtain ⟨rfl, rfl⟩ := List.append_eq_nil_iff.1 h.symm
  exact .inl (Text.isBoundary_zero [])

/-- A character that shows; it opens a string, or what follows is not inside one. -/
theorem Cuts.keep {before after : Bool} (h : Cuts after line mask) (hc : after = true → isQuote c = true) :
    Cuts before (c :: line) (c :: mask) := by
  intro a b hm
  rcases List.cons_eq_append_iff.1 hm with ⟨rfl, rfl⟩ | ⟨a, rfl, htail⟩
  · exact .inl (Text.isBoundary_zero _)
  · rcases h a b htail with h | h | ⟨lead, quote, n, rfl, hq⟩ | ⟨hin, n, rfl⟩
    · exact .inl (h.shift [c])
    · exact .inr (.inl h)
    · exact .inr (.inr (.inl ⟨c :: lead, quote, n, rfl, hq⟩))
    · exact .inr (.inr (.inl ⟨[], c, n, rfl, hc hin⟩))

/-- A character inside a string; a cut inside its spaces is inside the string. -/
theorem Cuts.hide (h : Cuts true line mask) : Cuts true (c :: line) (spaces [c] ++ mask) := by
  intro a b hm
  rcases List.append_eq_append_iff.1 hm with ⟨a, rfl, htail⟩ | ⟨e, he, -⟩
  · rcases h a b htail with h | h | ⟨lead, quote, n, rfl, hq⟩ | ⟨-, n, rfl⟩
    · refine .inl ?_
      rw [Text.byteLength_append, byteLength_spaces]
      exact h.shift [c]
    · exact .inr (.inl h)
    · exact .inr (.inr (.inl ⟨spaces [c] ++ lead, quote, n, (List.append_assoc ..).symm, hq⟩))
    · exact .inr (.inr (.inr ⟨rfl, _, List.replicate_append_replicate⟩))
  · refine .inr (.inr (.inr ⟨rfl, a.length, List.eq_replicate_iff.2 ⟨rfl, fun x hx => ?_⟩⟩))
    exact eq_space_of_mem_spaces (he ▸ List.mem_append_left e hx)

theorem Cuts.spaces {inside : Bool} (cs : List Char) : Cuts inside cs (spaces cs) := fun a _ hm =>
  .inr (.inl fun _ hc => eq_space_of_mem_spaces (hm ▸ List.mem_append_right a hc))

theorem maskFrom_cuts (hash : Bool) (state : ScanState) (before : List Char) (offset : Nat) (cs : List Char) :
    Cuts state.inside cs (maskFrom hash state before offset cs).mask := by
  fun_induction maskFrom hash state before offset cs with
  | case1 | case2 => exact .nil
  | case3 before offset c cs hq ih => exact ih.keep fun _ => hq
  | case4 before offset c cs hq hc => exact .spaces (c :: cs)
  | case5 before offset c cs hq hc ih => exact ih.keep nofun
  | case6 quote start before offset c cs next ih => exact ih.hide
  | case7 quote start escaped before offset c cs next he hc ih => exact ih.hide
  | case8 quote start escaped before offset c cs next he hc hq ih => exact ih.keep nofun
  | case9 quote start escaped before offset c cs next he hc hq ih => exact ih.hide

theorem maskLine_cuts (hash : Bool) (line : List Char) : Cuts false line (maskLine hash line).mask :=
  maskFrom_cuts hash .code [] 0 line

/-! ## Strings -/

theorem utf8Size_of_isStringLetter (h : isStringLetter c = true) : c.utf8Size = 1 := by
  have hmem := List.contains_iff_mem.1 h
  simp only [List.mem_cons, List.not_mem_nil, or_false] at hmem
  rcases hmem with rfl | rfl | rfl | rfl | rfl | rfl | rfl | rfl <;> rfl

theorem byteLength_of_isStringLetter {cs : List Char} (h : ∀ c ∈ cs, isStringLetter c = true) :
    byteLength cs = cs.length := by
  induction cs with
  | nil => rfl
  | cons c cs ih =>
    rw [Text.byteLength_cons, List.length_cons, ih fun d hd => h d (List.mem_cons_of_mem c hd),
      utf8Size_of_isStringLetter (h c List.mem_cons_self), Nat.add_comm]

theorem exists_lead (before : List Char) :
    ∃ lead rest, before = lead ++ rest ∧ byteLength lead = leadLength before ∧ ∀ c ∈ lead, isStringLetter c = true := by
  obtain ⟨rest, hrest⟩ : (before.take 2).takeWhile isStringLetter <+: before :=
    (List.takeWhile_prefix _).trans (List.take_prefix 2 before)
  have hletters : ∀ c ∈ (before.take 2).takeWhile isStringLetter, isStringLetter c = true :=
    List.all_eq_true.1 List.all_takeWhile
  have hlead := byteLength_of_isStringLetter hletters
  rw [leadLength]
  split
  · split
    · exact ⟨[], before, rfl, rfl, nofun⟩
    · exact ⟨_, rest, hrest.symm, hlead, hletters⟩
  · exact ⟨_, rest, hrest.symm, hlead, hletters⟩

/-- Where the letters before a quotation mark start that belong to its string. -/
theorem isBoundary_lead (before cs : List Char) :
    IsBoundary (before.reverse ++ cs) (byteLength before - leadLength before) := by
  obtain ⟨lead, rest, hb, hlead, -⟩ := exists_lead before
  have hrev : before.reverse = rest.reverse ++ lead.reverse := (congrArg List.reverse hb).trans List.reverse_append
  have hlen : byteLength before = byteLength lead + byteLength rest :=
    (congrArg byteLength hb).trans (Text.byteLength_append lead rest)
  refine ⟨rest.reverse, lead.reverse ++ cs, ?_, ?_⟩
  · rw [hrev, List.append_assoc]
  · rw [Text.byteLength_reverse]
    omega

/-- The start of the string that a scan is inside is a boundary that it has passed. -/
def ScanState.Started (line : List Char) (offset : Nat) : ScanState → Prop
  | .code => True
  | .string _ start _ => start ≤ offset ∧ IsBoundary line start

theorem maskFrom_strings (hash : Bool) (state : ScanState) (before : List Char) (offset : Nat) (cs : List Char)
    (ho : offset = byteLength before) (hs : state.Started (before.reverse ++ cs) offset) :
    ∀ s ∈ (maskFrom hash state before offset cs).strings, s.LiesIn (before.reverse ++ cs) := by
  -- every step puts its character in front of `before`, and the line stays the same
  have hline (c : Char) (before cs : List Char) : (c :: before).reverse ++ cs = before.reverse ++ c :: cs := by simp
  have hlen {c : Char} {before : List Char} {offset : Nat} (ho : offset = byteLength before) :
      offset + c.utf8Size = byteLength (c :: before) := by
    rw [ho, Text.byteLength_cons, Nat.add_comm]
  fun_induction maskFrom hash state before offset cs with
  | case1 => nofun
  | case2 before quote start escaped offset =>
    intro s h
    obtain rfl := List.mem_singleton.1 h
    exact ⟨hs.1, hs.2, before.reverse, [], rfl, by rw [Text.byteLength_reverse, ho]⟩
  | case3 before offset c cs hq ih =>
    rw [hline] at ih
    refine ih (hlen ho) ⟨by omega, ?_⟩
    rw [ho]
    exact isBoundary_lead before (c :: cs)
  | case4 before offset c cs hq hc => nofun
  | case5 before offset c cs hq hc ih =>
    rw [hline] at ih
    exact ih (hlen ho) trivial
  | case6 quote start before offset c cs next ih =>
    rw [hline] at ih
    exact ih (hlen ho) ⟨Nat.le_add_right_of_le hs.1, hs.2⟩
  | case7 quote start escaped before offset c cs next he hc ih =>
    rw [hline] at ih
    exact ih (hlen ho) ⟨Nat.le_add_right_of_le hs.1, hs.2⟩
  | case8 quote start escaped before offset c cs next he hc hq ih =>
    rw [hline] at ih
    intro s h
    rcases List.mem_cons.1 h with rfl | h
    · refine ⟨Nat.le_add_right_of_le hs.1, hs.2, (c :: before).reverse, cs, (hline c before cs).symm, ?_⟩
      rw [Text.byteLength_reverse, ← hlen ho]
    · exact ih (hlen ho) trivial s h
  | case9 quote start escaped before offset c cs next he hc hq ih =>
    rw [hline] at ih
    exact ih (hlen ho) ⟨Nat.le_add_right_of_le hs.1, hs.2⟩

theorem maskLine_strings (hash : Bool) (line : List Char) : ∀ s ∈ (maskLine hash line).strings, s.LiesIn line :=
  maskFrom_strings hash .code [] 0 line rfl trivial

end SourceAudit.Outline
