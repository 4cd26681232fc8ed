import SourceAudit.Proofs.Outline.Reading

/-!
# Names show in the line

Names are read from the mask of a line. They hold no spaces, so they stand in the line itself too.

* `Blanked.cut_eq` : a part of the mask without spaces is the same part of the line;
* `Candidate.NamedIn cs c` : the candidate starts with its name, or is nothing else;
* `Candidate.Reads.namedIn`, `candidates_named` : assignments, calls, members and identifiers do.
-/

namespace SourceAudit.Outline

open Text (byteLength IsBoundary)

variable {line mask w : List Char} {s : Span}

/-! ## Parts of the mask and of the line -/

/-- Where the line can be cut, so can the mask. -/
theorem Blanked.split {a b : List Char} (h : Blanked (a ++ b) mask) :
    ∃ a' b', mask = a' ++ b' ∧ Blanked a a' ∧ Blanked b b' := by
  induction a generalizing mask with
  | nil => exact ⟨[], mask, rfl, .nil, h⟩
  | cons c a ih =>
    cases h with
    | keep _ h =>
      obtain ⟨a', b', rfl, ha, hb⟩ := ih h
      exact ⟨c :: a', b', rfl, .keep c ha, hb⟩
    | hide _ h =>
      obtain ⟨a', b', rfl, ha, hb⟩ := ih h
      exact ⟨spaces [c] ++ a', b', (List.append_assoc ..).symm, .hide c ha, hb⟩

/-- What the mask starts with, up to the first space, is what the line starts with. -/
theorem Blanked.exists_append {b : List Char} (h : Blanked line (w ++ b)) (hw : ∀ c ∈ w, c ≠ ' ') :
    ∃ b', line = w ++ b' := by
  induction w generalizing line with
  | nil => exact ⟨line, rfl⟩
  | cons c w ih =>
    obtain ⟨a', b', rfl, ha, hb⟩ := h.split_of_ne_space (a := []) rfl (hw c List.mem_cons_self)
    obtain rfl : a' = [] := Text.byteLength_eq_zero.mp ha.byteLength_eq.symm
    obtain ⟨b'', rfl⟩ := ih hb fun d hd => hw d (List.mem_cons_of_mem c hd)
    exact ⟨b'', rfl⟩

/-- A part of the mask without spaces is the same part of the line. -/
theorem Blanked.cut_eq (h : Blanked line mask) (hcut : cut mask s = .ok w) (hw : ∀ c ∈ w, c ≠ ' ')
    (hs : IsBoundary line s.start) : cut line s = .ok w := by
  obtain ⟨a, b, hmask, ha, hstop⟩ := cut_ok_iff.mp hcut
  obtain ⟨a', b', rfl, ha'⟩ := hs
  obtain ⟨c, d, hcd, hc, hd⟩ := h.split
  obtain ⟨-, rfl⟩ := Text.split_eq (hcd.symm.trans hmask) (by rw [hc.byteLength_eq, ha', ha])
  obtain ⟨b'', rfl⟩ := hd.exists_append hw
  exact cut_ok_iff.mpr ⟨a', b'', rfl, ha', hstop⟩

/-- Spans that start together: the text of the shorter one is the start of the other. -/
theorem prefix_of_cut {t : Span} {v : List Char} (hs : cut line s = .ok v) (ht : cut line t = .ok w)
    (hstart : s.start = t.start) (hstop : s.stop ≤ t.stop) : v <+: w := by
  obtain ⟨a, b, hline, ha, hv⟩ := cut_ok_iff.mp hs
  obtain ⟨a', b', hline', ha', hw⟩ := cut_ok_iff.mp ht
  obtain ⟨rfl, hrest⟩ := Text.split_eq (hline.symm.trans hline') (by rw [ha, ha', hstart])
  obtain ⟨more, hmore, -⟩ := Text.split_le hrest (by omega)
  exact ⟨more, hmore.symm⟩

/-! ## Named candidates -/

def NodeKind.isNamed : NodeKind → Bool
  | .assignment | .call | .member | .identifier => true
  | .functionDeclaration | .importStatement | .stringLiteral => false

theorem NodeKind.name_injective : Function.Injective NodeKind.name := by
  intro a b
  cases a <;> cases b <;> decide

/-- In a mask or a line, the candidate starts with its name, which has no spaces; a member or an identifier is its
name. -/
def Candidate.NamedIn (cs : List Char) (c : Candidate) : Prop :=
  ∃ s w, cut cs s = .ok w ∧ (∀ x ∈ w, x ≠ ' ') ∧ c.name = some (String.ofList w) ∧ s.start = c.span.start ∧
    s.stop ≤ c.span.stop ∧ (c.kind = .member ∨ c.kind = .identifier → s = c.span)

theorem Candidate.NamedIn.unmask {c : Candidate} (h : c.NamedIn mask) (hb : Blanked line mask)
    (hs : IsBoundary line c.span.start) : c.NamedIn line := by
  obtain ⟨s, w, hw, hspace, hname, hstart, hrest⟩ := h
  exact ⟨s, w, hb.cut_eq hw hspace (hstart ▸ hs), hspace, hname, hstart, hrest⟩

theorem Candidate.NamedIn.exists_front {c : Candidate} (h : c.NamedIn line) (hw : cut line c.span = .ok w) :
    ∃ v, c.name = some (String.ofList v) ∧ v <+: w ∧ (c.kind = .member ∨ c.kind = .identifier → v = w) := by
  obtain ⟨s, v, hv, -, hname, hstart, hstop, hwhole⟩ := h
  refine ⟨v, hname, prefix_of_cut hv hw hstart hstop, fun hk => ?_⟩
  rw [hwhole hk] at hv
  exact Except.ok.inj (hv.symm.trans hw)

theorem IsName.ne_space (h : IsName w) : ∀ c ∈ w, c ≠ ' ' :=
  fun c hc => Text.ne_space_of_not_blank (not_blank_of_isInert (h.inert c hc))

theorem Candidate.Reads.namedIn {c : Candidate} (h : c.Reads mask) (hk : c.kind.isNamed = true) : c.NamedIn mask := by
  have hcut {a w b : List Char} (hmask : mask = a ++ (w ++ b)) :
      cut mask ⟨byteLength a, byteLength a + byteLength w⟩ = .ok w := cut_ok_iff.mpr ⟨a, b, hmask, rfl, rfl⟩
  cases h with
  | code hkind =>
    rcases hkind with hkind | hkind <;> rw [hkind] at hk <;> cases hk
  | assignment t hkind hname hspan _ hlt hle =>
    refine ⟨_, t.name, hcut t.text, t.isName.ne_space, hname, hspan.symm, ?_, by simp [hkind]⟩
    exact Nat.le_trans (Nat.le_of_lt hlt) hle
  | call t hkind hname hspan _ =>
    refine ⟨_, t.name, hcut t.text, t.isName.ne_space, hname, by rw [hspan]; rfl, ?_, by simp [hkind]⟩
    have hopening : byteLength t.before + byteLength t.name ≤ t.opening := Nat.le_add_right _ _
    rw [hspan]
    show byteLength t.before + byteLength t.name ≤ t.opening + 1 + byteLength t.inner + t.closed.toNat
    omega
  | name _ hmask hisName hname hspan =>
    have hstop := Nat.le_of_eq (congrArg Span.stop hspan.symm)
    exact ⟨_, _, hcut hmask, hisName.ne_space, hname, congrArg Span.start hspan.symm, hstop, fun _ => hspan.symm⟩
  | string hkind =>
    rw [hkind] at hk
    cases hk

/-- Assignments, calls, members and identifiers start with their names. -/
theorem candidates_named {hash : Bool} : Yields (candidates line (maskLine hash line)) fun cs =>
    ∀ c ∈ cs, c.kind.isNamed = true → c.NamedIn (maskLine hash line).mask :=
  candidates_read.mono fun _ hcs c hc hk => (hcs c hc).namedIn hk

end SourceAudit.Outline
