import SourceAudit.Outline.Build
import SourceAudit.Proofs.Outline.Reading

/-!
# Calls do not overlap what their arguments belong to

Spans of candidates can overlap without one holding the other: an assignment ends before the semicolon, a call that is
not closed ends behind it. What comes after the start of a call and holds one of its arguments does not overlap it.

* `CallText.stop_le_of_text` : a text that closes no parenthesis does not go on behind a closed call;
* `CallText.stop_le` : a call that starts inside another ends inside it;
* `AssignmentText.start_le` : no call starts before an assigned name;
* `CallText.stop_le_of_openString` : the last string of a line, where it is not closed;
* `CallText.holds_of_before` : a call holds the candidates behind it that hold one of its arguments.
-/

namespace SourceAudit.Outline

open Text (byteLength)

variable {mask : List Char} {s : Span}

theorem Span.holds_iff {outer inner : Span} :
    outer.holds inner = true ↔ outer.start ≤ inner.start ∧ inner.stop ≤ outer.stop := by
  rw [Span.holds, Bool.and_eq_true, decide_eq_true_eq, decide_eq_true_eq]

theorem codeStop_le {a b : List Char} (h : mask = a ++ b) (hb : ∀ c ∈ b, Text.isBlank c = true) :
    (codeSpan mask).stop ≤ byteLength a := by
  obtain ⟨tail, htrim, -, hlast⟩ := Text.dropEndWhile_spec Text.isBlank mask
  refine Nat.le_of_not_lt fun hlt => ?_
  obtain ⟨m, hm, hsplit⟩ := Text.split_le (h.symm.trans htrim) (Nat.le_of_lt hlt)
  rcases List.eq_nil_or_concat m with rfl | ⟨m, d, rfl⟩
  · rw [List.append_nil] at hm
    exact absurd (congrArg byteLength hm) (Nat.ne_of_gt hlt)
  · rw [List.concat_eq_append] at hm hsplit
    have hd := hlast (a ++ m) d (by rw [hm, List.append_assoc])
    rw [hb d (by simp [hsplit])] at hd
    cases hd

theorem codeStart_le_of_isName {a w b : List Char} (h : mask = a ++ (w ++ b)) (hw : IsName w) :
    (codeSpan mask).start ≤ byteLength a := by
  obtain ⟨c, w, rfl⟩ := List.exists_cons_of_ne_nil hw.ne_nil
  exact codeStart_le h (not_blank_of_isInert (hw.inert c List.mem_cons_self))

theorem codeStop_ge_of_isName {a w b : List Char} (h : mask = a ++ (w ++ b)) (hw : IsName w) :
    byteLength a + byteLength w ≤ (codeSpan mask).stop := by
  obtain ⟨w, d, rfl⟩ := (List.eq_nil_or_concat w).resolve_left hw.ne_nil
  rw [List.concat_eq_append] at h hw ⊢
  have hlast : mask = (a ++ w) ++ d :: b := h.trans (by simp)
  have := codeStop_ge hlast (not_blank_of_isInert (hw.inert d (by simp)))
  simp only [Text.byteLength_append, Text.byteLength_cons, Text.byteLength_nil] at this ⊢
  omega

theorem not_mem_of_isName {w : List Char} (h : IsName w) {c : Char} (hc : isInert c = false) : c ∉ w := by
  intro hm
  rw [h.inert c hm] at hc
  cases hc

/-! ## Calls -/

namespace CallText

variable (t t' : CallText mask)

theorem unclosed : Unclosed t.inner := by
  cases hclosed : t.closed with
  | true => exact (t.closes hclosed).1.unclosed
  | false => exact (t.runsOut hclosed).1

theorem text_opening : mask = (t.before ++ (t.name ++ t.gap)) ++ '(' :: (t.inner ++ t.after) ∧
    byteLength (t.before ++ (t.name ++ t.gap)) = t.opening := by
  refine ⟨t.text.trans (by simp), ?_⟩
  rw [Text.byteLength_append, Text.byteLength_append, ← Nat.add_assoc]
  rfl

theorem text_closing (h : t.closed = true) : ∃ a b, mask = a ++ ')' :: b ∧ byteLength a = t.inside.stop := by
  obtain ⟨-, hhead⟩ := t.closes h
  obtain ⟨b, hb⟩ := List.head?_eq_some_iff.mp hhead
  obtain ⟨hmask, hopening⟩ := t.text_opening
  refine ⟨(t.before ++ (t.name ++ t.gap)) ++ '(' :: t.inner, b, ?_, ?_⟩
  · rw [List.append_assoc, List.cons_append, ← hb]
    exact hmask
  · rw [Text.byteLength_append, hopening, Text.byteLength_cons, ← Nat.add_assoc]
    rfl

theorem start_lt_opening : t.span.start < t.opening := by
  have := Text.byteLength_pos t.isName.ne_nil
  show byteLength t.before < byteLength t.before + byteLength t.name + byteLength t.gap
  omega

theorem inside_stop_le : t.inside.stop ≤ t.span.stop := Nat.le_add_right _ _

theorem stop_le_succ : t.span.stop ≤ t.inside.stop + 1 := Nat.add_le_add_left (Bool.toNat_le _) _

theorem stop_of_unclosed (h : t.closed = false) :
    t.span.stop = t.inside.stop ∧ t.inside.stop = (codeSpan mask).stop := by
  have hend := (t.runsOut h).2
  refine ⟨by rw [span, h]; rfl, ?_⟩
  rw [← hend]
  simp only [Text.byteLength_append, Text.byteLength_cons]
  show byteLength t.before + byteLength t.name + byteLength t.gap + 1 + byteLength t.inner = _ + (_ + (_ + (1 + _)))
  omega

theorem codeStart_le : (codeSpan mask).start ≤ t.span.start := codeStart_le_of_isName t.text t.isName

theorem stop_le_codeStop : t.span.stop ≤ (codeSpan mask).stop := by
  cases hclosed : t.closed with
  | true =>
    obtain ⟨a, b, hmask, ha⟩ := t.text_closing hclosed
    have := codeStop_ge hmask (by decide)
    rw [ha] at this
    exact Nat.le_trans t.stop_le_succ this
  | false =>
    obtain ⟨hstop, hend⟩ := t.stop_of_unclosed hclosed
    exact Nat.le_of_eq (hstop.trans hend)

/-- No parenthesis stands between the start of a call and the parenthesis that opens it. -/
theorem not_mem_callee {c : Char} (hinert : isInert c = false) (hblank : Text.isBlank c = false) :
    c ∉ t.name ++ t.gap := by
  intro hm
  rcases List.mem_append.mp hm with hm | hm
  · exact not_mem_of_isName t.isName hinert hm
  · rw [t.blank c hm] at hblank
    cases hblank

/-- A text that closes no parenthesis does not go on behind a closed call. -/
theorem stop_le_of_text {a w b : List Char} (hclosed : t.closed = true) (h : mask = a ++ (w ++ b)) (hw : ')' ∉ w)
    (hstart : byteLength a ≤ t.inside.stop) : byteLength a + byteLength w ≤ t.inside.stop := by
  obtain ⟨x, y, hmask, hx⟩ := t.text_closing hclosed
  refine Nat.le_of_not_lt fun hlt => hw ?_
  exact Text.mem_of_between (h.symm.trans hmask) (by omega) (by omega)

/-- A call that starts behind the start of another opens behind it. -/
theorem opening_le (h : t.span.start < t'.span.start) : t.opening ≤ t'.opening := by
  refine Nat.le_of_not_lt fun hlt => t.not_mem_callee (c := '(') (by decide) (by decide) ?_
  obtain ⟨hmask, hopening⟩ := t'.text_opening
  have hstart := t'.start_lt_opening
  have hcallee : mask = t.before ++ ((t.name ++ t.gap) ++ '(' :: (t.inner ++ t.after)) := t.text.trans (by simp)
  refine Text.mem_of_between (hcallee.symm.trans hmask) ?_ ?_
  · show t.span.start ≤ _
    omega
  · rw [hopening, Text.byteLength_append, ← Nat.add_assoc]
    exact hlt

theorem opening_lt (hclosed : t.closed = true) (hinside : t'.span.start < t.inside.stop) :
    t'.opening < t.inside.stop := by
  have hcallee : mask = t'.before ++ ((t'.name ++ (t'.gap ++ ['('])) ++ (t'.inner ++ t'.after)) :=
    t'.text.trans (by simp)
  have hparen : ')' ∉ t'.name ++ (t'.gap ++ ['(']) := by
    have := t'.not_mem_callee (c := ')') (by decide) (by decide)
    simpa using this
  have hopens := t.stop_le_of_text hclosed hcallee hparen (Nat.le_of_lt hinside)
  simp only [Text.byteLength_append, Text.byteLength_cons, Text.byteLength_nil] at hopens
  have hopening : t'.opening = byteLength t'.before + byteLength t'.name + byteLength t'.gap := rfl
  have hsize : '('.utf8Size = 1 := rfl
  omega

/-- The parenthesis that opens another call inside a call. -/
theorem split_inner (hlt : t.opening < t'.opening) (hlt' : t'.opening < t.inside.stop) :
    ∃ u v, t.inner = u ++ '(' :: v ∧ t'.inner ++ t'.after = v ++ t.after ∧
      t'.opening = t.opening + 1 + byteLength u := by
  obtain ⟨hmask, hopening⟩ := t.text_opening
  obtain ⟨hmask', hopening'⟩ := t'.text_opening
  have hfront : mask = (t.before ++ (t.name ++ t.gap) ++ ['(']) ++ (t.inner ++ t.after) := hmask.trans (by simp)
  have hlength : byteLength (t.before ++ (t.name ++ t.gap) ++ ['(']) = t.opening + 1 := by
    rw [Text.byteLength_append, hopening]
    rfl
  have hstop : t.inside.stop = t.opening + 1 + byteLength t.inner := rfl
  obtain ⟨u, v, huv, hu, hv⟩ := Text.split_between (hfront.symm.trans hmask') (by omega) (by omega)
  have hu := congrArg byteLength hu
  rw [hopening', Text.byteLength_append, hlength] at hu
  exact ⟨u, v, huv, hv, hu⟩

theorem stop_le (h : t.span.start < t'.span.start) (hinside : t'.span.start < t.inside.stop) :
    t'.span.stop ≤ t.span.stop := by
  cases hclosed : t.closed with
  | false =>
    obtain ⟨hstop, hend⟩ := t.stop_of_unclosed hclosed
    rw [hstop, hend]
    exact t'.stop_le_codeStop
  | true =>
    have hbalanced := (t.closes hclosed).1
    have hlast : t.span.stop = t.opening + 1 + byteLength t.inner + 1 := by rw [span, hclosed]; rfl
    have hlast' : t'.span.stop ≤ t'.opening + 1 + byteLength t'.inner + 1 := t'.stop_le_succ
    rcases Nat.eq_or_lt_of_le (t.opening_le t' h) with heq | hlt
    · -- both open with the same parenthesis
      obtain ⟨hmask, hopening⟩ := t.text_opening
      obtain ⟨hmask', hopening'⟩ := t'.text_opening
      obtain ⟨-, hrest⟩ := Text.split_eq (hmask.symm.trans hmask') (by rw [hopening, hopening', heq])
      obtain ⟨tail, hafter⟩ := List.head?_eq_some_iff.mp (t.closes hclosed).2
      have hsplit : t.inner ++ ')' :: tail = t'.inner ++ t'.after := by
        rw [← hafter]
        exact (List.cons.inj hrest).2
      have := hbalanced.le_of_unclosed t'.unclosed hsplit
      omega
    · -- the other opens inside, and closes there
      obtain ⟨u, v, hinner, hrest, hopening⟩ := t.split_inner t' hlt (t.opening_lt t' hclosed hinside)
      rw [hinner] at hbalanced
      have hshort := hbalanced.closes t'.unclosed hrest.symm
      have hlength := congrArg byteLength hinner
      rw [Text.byteLength_append, Text.byteLength_cons, show '('.utf8Size = 1 from rfl] at hlength
      omega

end CallText

/-! ## Assignments -/

theorem AssignmentText.start_le (a : AssignmentText mask) (t : CallText mask) : byteLength a.before ≤ t.span.start := by
  refine Nat.le_of_not_lt fun hlt => ?_
  obtain ⟨hmask, hopening⟩ := t.text_opening
  have hopen : byteLength a.before ≤ t.opening := by
    refine Nat.le_of_not_lt fun hlt => a.no_paren ?_
    have hfront : mask = [] ++ (a.before ++ (a.name ++ a.after)) := a.text
    exact Text.mem_of_between (hfront.symm.trans hmask) (Nat.zero_le _) (by rw [hopening, Text.byteLength_nil]; omega)
  -- the last character before the name is a blank, so it stands in the gap
  rcases List.eq_nil_or_concat a.before with hnil | ⟨x, d, hd⟩
  · simp [hnil] at hlt
  rw [List.concat_eq_append] at hd
  have hblank := a.apart x d hd
  have hlength : byteLength a.before = byteLength x + d.utf8Size := by rw [hd, Text.byteLength_append]; rfl
  have hlast : mask = x ++ d :: (a.name ++ a.after) := a.text.trans (by rw [hd]; simp)
  have hstart : t.span.start ≤ byteLength x := by
    refine Nat.le_of_not_lt fun hx => ?_
    obtain ⟨m, hm, -⟩ := Text.split_lt (hlast.symm.trans t.text) hx
    have hm := congrArg byteLength hm
    rw [Text.byteLength_append, Text.byteLength_cons] at hm
    have : t.span.start = byteLength t.before := rfl
    omega
  have hgap : byteLength t.before + byteLength t.name ≤ byteLength x := by
    refine Nat.le_of_not_lt fun hx => ?_
    have hmem := Text.mem_of_between (t.text.symm.trans hlast) hstart hx
    have := not_blank_of_isInert (t.isName.inert d hmem)
    rw [hblank] at this
    cases this
  -- what follows is another blank or the parenthesis, but no name
  obtain ⟨c, w, hw⟩ := List.exists_cons_of_ne_nil a.isName.ne_nil
  have hinert := a.isName.inert c (by simp [hw])
  have hfirst : mask = a.before ++ c :: (w ++ a.after) := a.text.trans (by rw [hw]; rfl)
  rcases Nat.eq_or_lt_of_le hopen with heq | hlt
  · obtain ⟨-, hrest⟩ := Text.split_eq (hfirst.symm.trans hmask) (by rw [hopening, heq])
    obtain ⟨rfl, -⟩ := List.cons.inj hrest
    cases hinert
  · have hcallee : mask = (t.before ++ t.name) ++ (t.gap ++ '(' :: (t.inner ++ t.after)) := t.text.trans (by simp)
    have hd := d.utf8Size_pos
    have hmem := Text.mem_of_between (hcallee.symm.trans hfirst) (by rw [Text.byteLength_append]; omega)
      (by rw [Text.byteLength_append]; exact hlt)
    have := not_blank_of_isInert hinert
    rw [t.blank c hmem] at this
    cases this

/-! ## Strings -/

theorem isInert_of_isStringLetter {c : Char} (h : isStringLetter c = true) : isInert c = true := by
  have hinert : ['f', 'F', 'r', 'R', 'b', 'B', 'u', 'U'].all isInert = true := by decide
  exact List.all_eq_true.mp hinert c (List.contains_iff_mem.mp h)

theorem OpenString.split {start : Nat} {quote : Char} (h : OpenString mask start quote) :
    ∃ a w, mask = a ++ w ∧ byteLength a = start ∧ '(' ∉ w ∧ ')' ∉ w := by
  obtain ⟨⟨a, letters, k, rfl, ha, hletters⟩, hquote⟩ := h
  have hnot (c : Char) (hinert : isInert c = false) (hquoted : isQuote c = false) (hspace : c ≠ ' ') :
      c ∉ letters ++ quote :: List.replicate k ' ' := by
    intro hm
    rcases List.mem_append.mp hm with hm | hm
    · rw [isInert_of_isStringLetter (hletters c hm)] at hinert
      cases hinert
    · rcases List.mem_cons.mp hm with rfl | hm
      · rw [hquote] at hquoted
        cases hquoted
      · exact hspace (List.eq_of_mem_replicate hm)
  exact ⟨a, _, rfl, ha, hnot '(' (by decide) (by decide) (by decide), hnot ')' (by decide) (by decide) (by decide)⟩

theorem StringText.split (h : StringText mask s) :
    ∃ a w b, mask = a ++ (w ++ b) ∧ s = ⟨byteLength a, byteLength a + byteLength w⟩ ∧ '(' ∉ w ∧ ')' ∉ w := by
  cases h with
  | @closed x b quote hmask hopen hstop =>
    have hquote := hopen.quoted
    obtain ⟨a, w, rfl, ha, hleft, hright⟩ := hopen.split
    have hnot {c : Char} (hc : c ∉ w) (hquoted : isQuote c = false) : c ∉ w ++ [quote] := by
      simp only [List.mem_append, List.mem_singleton, not_or]
      refine ⟨hc, ?_⟩
      rintro rfl
      rw [hquote] at hquoted
      cases hquoted
    refine ⟨a, w ++ [quote], b, by rw [hmask]; simp, ?_, hnot hleft (by decide), hnot hright (by decide)⟩
    cases s
    simp_all [Nat.add_assoc]
  | unclosed hopen hstop =>
    obtain ⟨a, w, rfl, ha, hleft, hright⟩ := hopen.split
    refine ⟨a, w, [], by simp, ?_, hleft, hright⟩
    cases s
    simp_all

/-- What starts behind the start of a call and ends right behind the quotation mark of a string that is not closed is a
string that is not closed. -/
theorem stop_of_reads {c : Candidate} {a letters rest : List Char} {quote : Char} (t : CallText mask)
    (hc : c.Reads mask) (hafter : t.span.start < c.span.start) (hmask : mask = a ++ (letters ++ quote :: rest))
    (hletters : ∀ d ∈ letters, isStringLetter d = true) (hquote : isQuote quote = true)
    (hstart : byteLength a ≤ c.span.start) (hstop : c.span.stop = byteLength (a ++ (letters ++ [quote]))) :
    c.span.stop = byteLength mask := by
  have hfront : mask = a ++ ((letters ++ [quote]) ++ rest) := hmask.trans (by simp)
  -- what ends there has the quotation mark for its last character
  have hlast {x y : List Char} {d : Char} (h : mask = x ++ d :: y) (hx : byteLength (x ++ [d]) = c.span.stop) :
      x = a ++ letters ∧ d = quote := by
    have hsplit : (x ++ [d]) ++ y = ((a ++ letters) ++ [quote]) ++ rest := by
      rw [List.append_assoc, List.singleton_append, ← h, hmask]
      simp
    obtain ⟨heq, -⟩ := Text.split_eq hsplit (by rw [hx, hstop, List.append_assoc])
    obtain ⟨hx, hd⟩ := List.append_inj' heq rfl
    exact ⟨hx, List.singleton_inj.mp hd⟩
  cases hc with
  | code _ hspan =>
    have := t.codeStart_le
    rw [hspan] at hafter
    omega
  | assignment t' _ _ hspan =>
    have := t'.start_le t
    omega
  | call t' _ _ hspan =>
    -- its parenthesis would be a letter or the quotation mark
    obtain ⟨hmask', hopening⟩ := t'.text_opening
    have hlt := t'.start_lt_opening
    have hle := t'.inside_stop_le
    have hinside : t'.opening + 1 ≤ t'.inside.stop := Nat.le_add_right _ _
    rw [hspan] at hstart hstop
    have hmem : '(' ∈ letters ++ [quote] := by
      refine Text.mem_of_between (hfront.symm.trans hmask') (by omega) ?_
      rw [← Text.byteLength_append]
      omega
    rcases List.mem_append.mp hmem with hmem | hmem
    · cases isInert_of_isStringLetter (hletters _ hmem)
    · cases List.mem_singleton.mp hmem
      cases hquote
  | @name x w y _ hname hisName _ hspan =>
    obtain ⟨w, d, rfl⟩ := (List.eq_nil_or_concat w).resolve_left hisName.ne_nil
    rw [List.concat_eq_append] at hname hisName hspan
    obtain ⟨-, rfl⟩ := hlast (x := x ++ w) (y := y) (d := d) (hname.trans (by simp)) (by rw [hspan]; simp)
    have := not_isQuote_of_isInert (hisName.inert d (by simp))
    rw [hquote] at this
    cases this
  | string _ htext =>
    cases htext with
    | @closed _ _ quote' hmask' hopen hstop' =>
      -- its first quotation mark would be a letter
      obtain ⟨rfl, rfl⟩ := hlast hmask' (by rw [hstop', Text.byteLength_append]; rfl)
      obtain ⟨⟨x, letters', k, htext, hx, -⟩, -⟩ := hopen
      have hsplit : a ++ (letters ++ []) = (x ++ letters') ++ quote' :: List.replicate k ' ' := by
        rw [List.append_nil, htext, List.append_assoc]
      have hlength := congrArg byteLength hsplit
      simp only [Text.byteLength_append, Text.byteLength_cons, Text.byteLength_nil] at hlength
      have hpos := quote'.utf8Size_pos
      have hmem := Text.mem_of_between hsplit (by rw [Text.byteLength_append]; omega)
        (by rw [Text.byteLength_append]; omega)
      have := not_isStringLetter_of_isQuote hquote
      rw [hletters _ hmem] at this
      cases this
    | unclosed _ hstop' => exact hstop'

theorem CallText.stop_le_of_openString {c : Candidate} {start : Nat} {quote : Char} (t : CallText mask)
    (hclosed : t.closed = false) (hopen : OpenString mask start quote) (hc : c.Reads mask)
    (harg : c.span ∈ splitArguments mask t.inside) (hstart : start ≤ c.span.start) : byteLength mask ≤ t.span.stop := by
  obtain ⟨⟨a, letters, k, hmask, ha, hletters⟩, hquote⟩ := hopen
  obtain ⟨hin, hout⟩ := splitArguments_within c.span harg
  have hne := splitArguments_ne c.span harg
  have hopening : t.inside.start = t.opening + 1 := rfl
  have hbefore := t.start_lt_opening
  -- the code of the line ends with the quotation mark
  have hend : (codeSpan mask).stop = byteLength (a ++ (letters ++ [quote])) := by
    refine Nat.le_antisymm (codeStop_le (b := List.replicate k ' ') (hmask.trans (by simp)) fun d hd => ?_) ?_
    · rw [List.eq_of_mem_replicate hd]
      decide
    · have hshown : mask = (a ++ letters) ++ quote :: List.replicate k ' ' := hmask.trans (by simp)
      have := codeStop_ge hshown (not_blank_of_isQuote hquote)
      simp only [Text.byteLength_append, Text.byteLength_cons, Text.byteLength_nil] at this ⊢
      omega
  obtain ⟨hstop, hinside⟩ := t.stop_of_unclosed hclosed
  have hargument : c.span.stop = byteLength (a ++ (letters ++ [quote])) := by
    rcases splitArguments_ends harg with hargument | ⟨x, d, y, hx, hlength, hd⟩
    · rw [hargument, hinside, hend]
    · refine Nat.le_antisymm (by omega) (Nat.le_of_not_lt fun hlt => ?_)
      have hfront : mask = a ++ ((letters ++ [quote]) ++ List.replicate k ' ') := hmask.trans (by simp)
      have hmem := Text.mem_of_between (hfront.symm.trans hx) (by omega) (by rw [← Text.byteLength_append]; omega)
      have hnot : isInert d = false ∧ isQuote d = false := by
        rcases hd with rfl | hblank
        · decide
        · refine ⟨by simp [isInert, hblank], Bool.eq_false_iff.mpr fun hq => ?_⟩
          rw [not_blank_of_isQuote hq] at hblank
          cases hblank
      rcases List.mem_append.mp hmem with hmem | hmem
      · rw [isInert_of_isStringLetter (hletters d hmem)] at hnot
        cases hnot.1
      · rw [List.mem_singleton.mp hmem, hquote] at hnot
        cases hnot.2
  have := stop_of_reads t hc (by omega) hmask hletters hquote (by omega) hargument
  omega

/-! ## Holders of arguments -/

theorem CallText.holds_of_before {c q x : Candidate} (t : CallText mask) (hc : c.span = t.span) (hx : x.Reads mask)
    (harg : x.span ∈ splitArguments mask t.inside) (hq : q.Reads mask) (hbefore : c.before q = true)
    (hholds : q.span.holds x.span = true) : c.span.holds q.span = true := by
  obtain ⟨hstart, -⟩ := Span.holds_iff.mp hholds
  have hout := (splitArguments_within x.span harg).2
  have hne := splitArguments_ne x.span harg
  have hend := t.inside_stop_le
  rw [Span.holds_iff]
  rw [Candidate.before_iff, hc] at hbefore
  rw [hc]
  rcases hbefore with hlt | ⟨heq, hstop⟩
  · refine ⟨Nat.le_of_lt hlt, ?_⟩
    -- a text that closes no parenthesis, and ends with the code if the call does
    have htext {a w b : List Char} (hmask : mask = a ++ (w ++ b))
        (hspan : q.span = ⟨byteLength a, byteLength a + byteLength w⟩) (hw : ')' ∉ w)
        (hopen : t.closed = false → q.span.stop ≤ t.span.stop) : q.span.stop ≤ t.span.stop := by
      cases hclosed : t.closed with
      | false => exact hopen hclosed
      | true =>
        rw [hspan] at hstart ⊢
        dsimp only at hstart ⊢
        have := t.stop_le_of_text hclosed hmask hw (by omega)
        omega
    have hcode (hcode : q.span.stop ≤ (codeSpan mask).stop) (hclosed : t.closed = false) :
        q.span.stop ≤ t.span.stop := by
      obtain ⟨hstop, hinside⟩ := t.stop_of_unclosed hclosed
      omega
    cases hq with
    | code _ hspan =>
      have := t.codeStart_le
      rw [hspan] at hlt
      omega
    | assignment t' _ _ hspan =>
      have := t'.start_le t
      omega
    | call t' _ _ hspan =>
      rw [hspan] at hlt hstart ⊢
      exact t.stop_le t' hlt (by omega)
    | name _ hmask hname _ hspan =>
      refine htext hmask hspan (not_mem_of_isName hname (by decide)) (hcode ?_)
      rw [hspan]
      exact codeStop_ge_of_isName hmask hname
    | string _ hstring =>
      obtain ⟨a, w, b, hmask, hspan, -, hw⟩ := hstring.split
      refine htext hmask hspan hw ?_
      cases hstring with
      | closed hmask' hopen hstop' =>
        refine hcode ?_
        rw [hstop']
        exact codeStop_ge hmask' (not_blank_of_isQuote hopen.quoted)
      | unclosed hopen hstop' =>
        intro hclosed
        rw [hstop']
        exact t.stop_le_of_openString hclosed hopen hx harg hstart
  · omega

end SourceAudit.Outline
