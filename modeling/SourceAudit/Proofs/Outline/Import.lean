import SourceAudit.Proofs.Outline.Disguise
import SourceAudit.Proofs.Regex.Complete

/-!
# Imports in alike lines

Imports are recognised on the line itself, and not on its mask.

* `SameCode` : two cursors behind the same characters, before code that is alike;
* `avoidsMarkers r` : no character of `r` starts a string or a comment, so that its paths stay in code;
* `importShape_find?_alike` : of two alike lines, both are imports or none is.
-/

namespace SourceAudit.Outline

open Regex

variable {hash : Bool} {line line' : List Char} {p p' q : Cursor} {r : Regex}

/-! ## Paths in code -/

/-- The cursors stand behind the same characters, before code that is alike. -/
def SameCode (hash : Bool) (p p' : Cursor) : Prop := p'.left = p.left ∧ Alike hash .code p.right p'.right

/-- The characters that start a string or a comment. -/
def markers : List Char := ['\x22', '\x27', '\x60', '#', '/']

/-- Whether no character of an expression starts a string or a comment. -/
def avoidsMarkers (r : Regex) : Bool := r.sets.all fun chars => markers.all fun c => !chars.mem c

theorem isPlain_of_not_marker {c : Char} (h : c ∉ markers) : isPlain c = true := by
  simp only [markers, List.mem_cons, List.not_mem_nil, or_false, not_or] at h
  simp [isPlain, isQuote, h]

theorem isPlain_of_avoidsMarkers (h : avoidsMarkers r = true) {chars : CharSet} (hchars : chars ∈ r.sets) {c : Char}
    (hc : chars.mem c = true) : isPlain c = true := by
  refine isPlain_of_not_marker fun hm => ?_
  have := List.all_eq_true.mp (List.all_eq_true.mp h chars hchars) c hm
  rw [hc] at this
  cases this

theorem follows_of_avoidsMarkers (h : avoidsMarkers r = true) : Follows (SameCode hash) r where
  char := by
    rintro chars hchars p p' c rest ⟨hleft, hright⟩ hp hc
    rw [hp] at hright
    generalize hp' : p'.right = right at hright
    cases hright with
    | hidden hh _ _ => cases hh
    | same c hrest =>
      rw [Region.next_of_isPlain (isPlain_of_avoidsMarkers h hchars hc)] at hrest
      exact ⟨c, _, rfl, hc, congrArg (c :: ·) hleft, hrest⟩
  look := by
    rintro assertion - p p' ⟨hleft, hright⟩ h
    rwa [hleft, ← hright.head_eq fun _ => rfl]
  note := fun _ _ _ h => h

/-! ## Paths in a string -/

/-- The cursors stand before lines that are alike. -/
def SameRest (hash : Bool) (p p' : Cursor) : Prop := ∃ r : Region, r.Quoted ∧ Alike hash r p.right p'.right

theorem not_mem_quotation {c : Char} (h : isQuote c = false) : quotation.mem c = false := by
  refine Bool.eq_false_iff.mpr fun hc => ?_
  simp only [quotation, CharSet.ofChars, List.map_cons, List.map_nil, CharSet.unions, CharSet.mem, Bool.or_eq_true,
    mem_single] at hc
  rcases hc with rfl | rfl <;> cases h

/-- What stands for a character that is no quotation mark is none either. -/
theorem follows_group {i : Nat} : Follows (SameRest hash) (group i (plus (set (.compl quotation)))) where
  char := by
    rintro chars hchars p p' c rest ⟨r, hr, hright⟩ hp hc
    obtain rfl : chars = .compl quotation := List.mem_singleton.mp hchars
    rw [hp] at hright
    generalize hp' : p'.right = right at hright
    cases hright with
    | same c hrest => exact ⟨c, _, rfl, hc, _, hr.next hash c _, hrest⟩
    | @hidden _ _ d _ _ _ hharmless hrest =>
      refine ⟨d, _, rfl, ?_, _, hr.next hash c _, hrest⟩
      rw [CharSet.mem, not_mem_quotation hharmless.not_quote', Bool.not_false]
  look := nofun
  note := fun _ _ _ h => h

theorem SameRest.quotation (h : SameRest hash p p') (hq : Takes (set Outline.quotation) p q) :
    ∃ q', Takes (set Outline.quotation) p' q' ∧ SameRest hash q q' := by
  obtain ⟨r, hr, hright⟩ := h
  obtain ⟨c, rest, hp, hc, rfl⟩ := hq
  rw [hp] at hright
  generalize hp' : p'.right = right at hright
  cases hright with
  | same c hrest => exact ⟨_, ⟨c, _, hp', hc, rfl⟩, _, hr.next hash c _, hrest⟩
  | hidden _ hharmless _ =>
    rw [not_mem_quotation hharmless.not_quote] at hc
    cases hc

/-! ## Imports -/

/-- An assignment of what `require` gives, up to the quotation mark. -/
def requireLead : List Regex :=
  [oneOf ["const", "let", "var"], someBlanks,
    plus (set (.unions [.word, .ofChars ['$', '\x7b', '\x7d', ',', ':'], .blank])), word "=", blanks, word "require",
    blanks, word "(", blanks]

theorem takes_importShape_alike (h : SameCode hash p p') (hq : Takes importShape p q) :
    ∃ q', Takes importShape p' q' := by
  obtain ⟨m, hlead, halts⟩ := (takes_seqs_append [look .startText, blanks]).mp hq
  obtain ⟨m', hlead', hm⟩ := hlead.transfer (follows_of_avoidsMarkers (by decide +kernel)) h
  suffices ∃ q', Takes (alts _) m' q' from
    this.imp fun q' hq' => (takes_seqs_append [look .startText, blanks]).mpr ⟨m', hlead', hq'⟩
  rcases halts with hfrom | himport | hbare | hrequire
  · obtain ⟨q', hq', -⟩ := hfrom.transfer (follows_of_avoidsMarkers (by decide +kernel)) hm
    exact ⟨q', .inl hq'⟩
  · obtain ⟨q', hq', -⟩ := himport.transfer (follows_of_avoidsMarkers (by decide +kernel)) hm
    exact ⟨q', .inr (.inl hq')⟩
  · obtain ⟨q', hq', -⟩ := hbare.transfer (follows_of_avoidsMarkers (by decide +kernel)) hm
    exact ⟨q', .inr (.inr (.inl hq'))⟩
  · -- the only path that enters a string: code, the name between two quotation marks, and no more
    obtain ⟨n, hn, n₁, hopen, n₂, hname, hclose⟩ := (takes_seqs_append requireLead).mp hrequire
    obtain ⟨n', hn', hcode⟩ := hn.transfer (follows_of_avoidsMarkers (by decide +kernel)) hm
    obtain ⟨n₁', hopen', hn₁⟩ := SameRest.quotation ⟨.code, Region.quoted_code, hcode.2⟩ hopen
    obtain ⟨n₂', hname', hn₂⟩ := hname.transfer follows_group hn₁
    obtain ⟨q', hclose', -⟩ := hn₂.quotation hclose
    refine ⟨q', .inr (.inr (.inr ((takes_seqs_append requireLead).mpr ⟨n', hn', ?_⟩)))⟩
    exact ⟨n₁', hopen', n₂', hname', hclose'⟩

theorem importShape_matches_alike (h : Alike hash .code line line') {m : Match} (hm : Matches importShape line m) :
    ∃ m', Matches importShape line' m' := by
  obtain ⟨p, q, htext, hslots, hq, -⟩ := hm
  -- an import starts with the line
  obtain ⟨_, ⟨hstart, -⟩, -⟩ := takes_seqs_cons.mp hq
  have hleft : p.left = [] := by simpa [Look.holds] using hstart
  rw [Cursor.text, hleft] at htext
  obtain rfl : p.right = line := htext
  obtain ⟨q', hq'⟩ := takes_importShape_alike (show SameCode hash p ⟨[], line', []⟩ from ⟨hleft.symm, h⟩) hq
  exact ⟨_, _, q', rfl, rfl, hq', rfl⟩

theorem importShape_find?_alike (h : Alike hash .code line line') :
    (importShape.find? line').isSome = (importShape.find? line).isSome := by
  rw [Bool.eq_iff_iff, find?_isSome_iff, find?_isSome_iff]
  constructor
  · rintro ⟨m, hm⟩
    exact importShape_matches_alike (h.symm Region.quoted_code) hm
  · rintro ⟨m, hm⟩
    exact importShape_matches_alike h hm

end SourceAudit.Outline
