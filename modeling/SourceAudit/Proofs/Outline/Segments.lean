import SourceAudit.Proofs.Outline.Arguments

/-!
# Arguments are the parts between commas

* `depthOf cs` : how many more brackets `cs` opens than it closes;
* `Tight text`, `Trimmed offset segment s` : a text without blanks at its ends, and the span of a segment without them;
* `trimSegment_eq_some_iff` : what is left of a segment;
* `IsSegment cs u segment v` : `segment` stands between two commas of depth zero that follow each other, or at an end;
* `isSegment_iff_of_inner`, `isSegment_comma_iff` : the segments of a text are its first one and those behind the
  first such comma;
* `splitFrom_next` : how splitting goes on to the next comma;
* `mem_splitFrom_iff`, `splitFrom_covers` : it gives the segments, and loses nothing but commas and blanks;
* `arguments_partition` : the same for the arguments of a call.
-/

namespace SourceAudit.Outline

open Text (byteLength)

variable {mask cs segment rest u v x y : List Char} {c : Char} {s : Span} {offset : Nat}

/-! ## Depths -/

/-- How many more brackets a text opens than it closes. -/
def depthOf (cs : List Char) : Int := (cs.countP opensBracket : Int) - cs.countP closesBracket

@[simp] theorem depthOf_append (a b : List Char) : depthOf (a ++ b) = depthOf a + depthOf b := by
  simp only [depthOf, List.countP_append, Int.natCast_add]
  omega

/-- Behind a comma of depth zero, depths are counted anew. -/
theorem depthOf_append_comma {first : List Char} (h : depthOf first = 0) (cs : List Char) :
    depthOf (first ++ ',' :: cs) = depthOf cs := by
  have hcomma : depthOf [','] = 0 := by decide
  rw [List.append_cons, depthOf_append, depthOf_append, h, hcomma]
  omega

theorem opens_or_closes (c : Char) : opensBracket c = false ∨ closesBracket c = false := by
  cases h : opensBracket c with
  | false => exact .inl rfl
  | true =>
    simp only [opensBracket, Bool.or_eq_true, beq_iff_eq] at h
    obtain (rfl | rfl) | rfl := h <;> exact .inr (by decide)

theorem depthOf_singleton (c : Char) :
    depthOf [c] = if opensBracket c then 1 else if closesBracket c then -1 else 0 := by
  rw [depthOf, List.countP_singleton, List.countP_singleton]
  rcases opens_or_closes c with h | h
  · rw [h]
    cases closesBracket c <;> rfl
  · rw [h]
    cases opensBracket c <;> rfl

theorem depthOf_concat (cs : List Char) (c : Char) : depthOf (cs ++ [c]) =
    if opensBracket c then depthOf cs + 1 else if closesBracket c then depthOf cs - 1 else depthOf cs := by
  rw [depthOf_append, depthOf_singleton]
  split
  · rfl
  · split
    · rfl
    · exact Int.add_zero _

/-! ## Trimming -/

/-- The text neither starts nor ends with a blank, and is not empty. -/
structure Tight (text : List Char) : Prop where
  first : ∃ c rest, text = c :: rest ∧ Text.isBlank c = false
  last : ∃ front c, text = front ++ [c] ∧ Text.isBlank c = false

/-- The span is that of a segment at an offset without the blanks around it. -/
def Trimmed (offset : Nat) (segment : List Char) (s : Span) : Prop :=
  ∃ lead text tail, segment = lead ++ (text ++ tail) ∧ (∀ c ∈ lead, Text.isBlank c = true) ∧ Tight text ∧
    (∀ c ∈ tail, Text.isBlank c = true) ∧ s.start = offset + byteLength lead ∧ s.stop = s.start + byteLength text

theorem Tight.trimStart_append {lead text tail : List Char} (h : Tight text)
    (hlead : ∀ c ∈ lead, Text.isBlank c = true) :
    Text.trimStart (lead ++ (text ++ tail)) = text ++ tail := by
  obtain ⟨c, rest, rfl, hc⟩ := h.first
  rw [Text.trimStart, List.dropWhile_append_of_pos hlead, List.cons_append,
    List.dropWhile_cons_of_neg (by rw [hc]; decide)]

theorem Tight.trimEnd_append {text tail : List Char} (h : Tight text) (htail : ∀ c ∈ tail, Text.isBlank c = true) :
    Text.trimEnd (text ++ tail) = text := by
  obtain ⟨front, c, rfl, hc⟩ := h.last
  rw [Text.trimEnd, Text.dropEndWhile, List.reverse_append, List.dropWhile_append_of_pos (by simpa using htail),
    List.reverse_concat, List.dropWhile_cons_of_neg (by rw [hc]; decide), List.reverse_cons, List.reverse_reverse]

theorem tight_trim (h : Text.trim segment ≠ []) : Tight (Text.trim segment) := by
  obtain ⟨-, -, -, hfirst⟩ := Text.trimStart_spec segment
  obtain ⟨tail, htail, -, hlast⟩ := Text.dropEndWhile_spec Text.isBlank (Text.trimStart segment)
  have htrim : Text.trimStart segment = Text.trim segment ++ tail := htail
  obtain ⟨c, rest, hc⟩ := List.exists_cons_of_ne_nil h
  obtain ⟨front, d, hd⟩ := (List.eq_nil_or_concat _).resolve_left h
  rw [List.concat_eq_append] at hd
  refine ⟨⟨c, rest, hc, hfirst c (rest ++ tail) ?_⟩, front, d, hd, hlast front d hd⟩
  rw [htrim, hc, List.cons_append]

theorem trimSegment_eq_some_iff : trimSegment offset segment = some s ↔ Trimmed offset segment s := by
  constructor
  · intro h
    obtain ⟨lead, hlead, hblank, -⟩ := Text.trimStart_spec segment
    obtain ⟨tail, htail, hblank', -⟩ := Text.dropEndWhile_spec Text.isBlank (Text.trimStart segment)
    have hlength := congrArg byteLength hlead
    rw [Text.byteLength_append] at hlength
    rw [trimSegment] at h
    split at h
    · cases h
    · rename_i hne
      cases h
      refine ⟨lead, Text.trim segment, tail, ?_, hblank, tight_trim (by simpa using hne), hblank', ?_, rfl⟩
      · rw [Text.trim, Text.trimEnd, ← htail, ← hlead]
      · show offset + (byteLength segment - byteLength (Text.trimStart segment)) = _
        omega
  · rintro ⟨lead, text, tail, rfl, hlead, htight, htail, hstart, hstop⟩
    have hne : text ≠ [] := by
      obtain ⟨c, rest, rfl, -⟩ := htight.first
      exact List.cons_ne_nil c rest
    rw [trimSegment, Text.trim, htight.trimStart_append hlead, htight.trimEnd_append htail]
    rw [if_neg (by simpa using hne)]
    obtain ⟨first, last⟩ := s
    simp only [Text.byteLength_append] at *
    simp only [Option.some.injEq, Span.mk.injEq]
    omega

theorem trimSegment_covers (h : segment = x ++ c :: y) (hc : Text.isBlank c = false) (offset : Nat) :
    ∃ s, trimSegment offset segment = some s ∧ s.start ≤ offset + byteLength x ∧ offset + byteLength x + c.utf8Size ≤
      s.stop := by
  obtain ⟨lead, hlead, hblank, -⟩ := Text.trimStart_spec segment
  obtain ⟨tail, htail, hblank', -⟩ := Text.dropEndWhile_spec Text.isBlank (Text.trimStart segment)
  have hsplit : lead ++ (Text.trim segment ++ tail) = x ++ c :: y := by
    rw [Text.trim, Text.trimEnd, ← htail, ← hlead, h]
  have hnot {blanks : List Char} (hblanks : ∀ d ∈ blanks, Text.isBlank d = true) : c ∉ blanks := by
    intro hmem
    rw [hblanks c hmem] at hc
    cases hc
  -- the character comes behind the blanks at the start and before those at the end
  have hle : byteLength lead ≤ byteLength x := by
    refine Nat.le_of_not_lt fun hlt => ?_
    obtain ⟨m, rfl, -⟩ := Text.split_lt hsplit.symm hlt
    exact hnot hblank (by simp)
  obtain ⟨m, rfl, hm⟩ := Text.split_le hsplit hle
  have hlt : byteLength m < byteLength (Text.trim segment) := by
    refine Nat.lt_of_not_le fun hle => ?_
    obtain ⟨n, -, rfl⟩ := Text.split_le hm hle
    exact hnot hblank' (by simp)
  obtain ⟨n, htrim, -⟩ := Text.split_lt hm.symm hlt
  have hne : Text.trim segment ≠ [] := by
    rw [htrim]
    simp
  refine ⟨⟨offset + byteLength lead, offset + byteLength lead + byteLength (Text.trim segment)⟩,
    trimSegment_eq_some_iff.mpr ⟨lead, Text.trim segment, tail, h.trans hsplit.symm, hblank, tight_trim hne,
      hblank', rfl, rfl⟩,
    ?_, ?_⟩
  · rw [Text.byteLength_append]
    show offset + byteLength lead ≤ _
    omega
  · rw [htrim]
    simp only [Text.byteLength_append, Text.byteLength_cons]
    omega

/-! ## Segments -/

/-- Every comma of the text is inside a bracket. -/
def Inner (cs : List Char) : Prop := ∀ x y, cs = x ++ ',' :: y → depthOf x ≠ 0

theorem inner_nil : Inner [] := by
  intro x y h
  simp at h

theorem Inner.concat (h : Inner cs) (hc : c = ',' → depthOf cs ≠ 0) : Inner (cs ++ [c]) := by
  intro x y hsplit
  rcases List.eq_nil_or_concat y with rfl | ⟨z, d, rfl⟩
  · obtain ⟨rfl, heq⟩ := List.append_inj' hsplit rfl
    exact hc (List.cons.inj heq).1
  · rw [List.concat_eq_append, ← List.cons_append, ← List.append_assoc] at hsplit
    obtain ⟨rfl, -⟩ := List.append_inj' hsplit rfl
    exact h x z rfl

/-- A part of a text that goes from one comma of depth zero, or the start, to the next such comma, or the end. -/
structure IsSegment (cs u segment v : List Char) : Prop where
  split : cs = u ++ (segment ++ v)
  start : u = [] ∨ ∃ w, u = w ++ [','] ∧ depthOf w = 0
  stop : v = [] ∨ ∃ w, v = ',' :: w ∧ depthOf (u ++ segment) = 0
  inner : ∀ x y, segment = x ++ ',' :: y → depthOf (u ++ x) ≠ 0

theorem isSegment_iff_of_inner (h : Inner cs) : IsSegment cs u segment v ↔ u = [] ∧ segment = cs ∧ v = [] := by
  constructor
  · rintro ⟨rfl, hstart, hstop, -⟩
    obtain rfl : u = [] := by
      refine hstart.resolve_right ?_
      rintro ⟨w, rfl, hw⟩
      exact h w (segment ++ v) (by simp) hw
    obtain rfl : v = [] := by
      refine hstop.resolve_right ?_
      rintro ⟨w, rfl, hw⟩
      exact h segment w rfl hw
    exact ⟨rfl, by simp, rfl⟩
  · rintro ⟨rfl, rfl, rfl⟩
    exact ⟨by simp, .inl rfl, .inl rfl, h⟩

/-- What comes before the first comma of depth zero is a segment, and the only one at the start. -/
theorem isSegment_first_iff {first : List Char} (h : Inner first) (hdepth : depthOf first = 0) :
    IsSegment (first ++ ',' :: rest) [] segment v ↔ segment = first ∧ v = ',' :: rest := by
  constructor
  · rintro ⟨hsplit, -, hstop, hinner⟩
    rw [List.nil_append] at hsplit hstop
    rcases List.append_eq_append_iff.mp hsplit with ⟨m, rfl, hm⟩ | ⟨m, rfl, hm⟩
    · cases m with
      | nil => exact ⟨by simp, hm.symm⟩
      | cons d m =>
        obtain ⟨rfl, -⟩ := List.cons.inj hm
        exact absurd hdepth (hinner first m rfl)
    · cases m with
      | nil => exact ⟨by simp, hm⟩
      | cons d m =>
        obtain rfl | ⟨w, rfl, hzero⟩ := hstop
        · cases hm
        · obtain ⟨rfl, -⟩ := List.cons.inj hm
          exact absurd hzero (h segment m rfl)
  · rintro ⟨rfl, rfl⟩
    exact ⟨rfl, .inl rfl, .inr ⟨rest, rfl, hdepth⟩, h⟩

/-- The other segments are those of what comes behind the first comma of depth zero. -/
theorem isSegment_behind_iff {first w : List Char} (hdepth : depthOf first = 0) :
    IsSegment (first ++ ',' :: rest) (first ++ ',' :: w) segment v ↔ IsSegment rest w segment v := by
  have hshift := depthOf_append_comma hdepth
  have hassoc (z : List Char) : (first ++ ',' :: w) ++ z = first ++ ',' :: (w ++ z) := by simp
  constructor
  · rintro ⟨hsplit, hstart, hstop, hinner⟩
    simp only [hassoc, hshift] at hsplit hstop hinner
    refine ⟨(List.cons.inj (List.append_cancel_left hsplit)).2, ?_, hstop, hinner⟩
    rcases List.eq_nil_or_concat w with rfl | ⟨z, d, rfl⟩
    · exact .inl rfl
    · obtain hnil | ⟨front, hfront, hzero⟩ := hstart
      · simp at hnil
      · rw [List.concat_eq_append, ← List.cons_append, ← List.append_assoc] at hfront
        obtain ⟨rfl, heq⟩ := List.append_inj' hfront rfl
        rw [hshift] at hzero
        exact .inr ⟨z, by rw [List.concat_eq_append, heq], hzero⟩
  · rintro ⟨rfl, hstart, hstop, hinner⟩
    refine ⟨(hassoc _).symm, .inr ?_, ?_, ?_⟩
    · obtain rfl | ⟨z, rfl, hzero⟩ := hstart
      · exact ⟨first, rfl, hdepth⟩
      · exact ⟨first ++ ',' :: z, by simp, by rwa [hshift]⟩
    · simpa only [hassoc, hshift] using hstop
    · simpa only [hassoc, hshift] using hinner

/-- The segments of a text are what comes before the first comma of depth zero, and the segments of what comes behind
it. -/
theorem isSegment_comma_iff {first : List Char} (h : Inner first) (hdepth : depthOf first = 0) :
    IsSegment (first ++ ',' :: rest) u segment v ↔
      (u = [] ∧ segment = first ∧ v = ',' :: rest) ∨ ∃ w, u = first ++ ',' :: w ∧ IsSegment rest w segment v := by
  constructor
  · intro hsegment
    obtain rfl | ⟨front, rfl, hfront⟩ := hsegment.start
    · exact .inl ⟨rfl, (isSegment_first_iff h hdepth).mp hsegment⟩
    · -- a comma of depth zero is the first one or comes behind it
      obtain ⟨w, hw⟩ : ∃ w, front ++ [','] = first ++ ',' :: w := by
        have hsplit := hsegment.split
        rw [← List.append_cons] at hsplit
        rcases List.append_eq_append_iff.mp hsplit with ⟨m, rfl, hm⟩ | ⟨m, rfl, hm⟩
        · cases m with
          | nil => exact ⟨[], by simp⟩
          | cons d m =>
            obtain ⟨rfl, -⟩ := List.cons.inj hm
            exact ⟨m ++ [','], by simp⟩
        · cases m with
          | nil => exact ⟨[], by simp⟩
          | cons d m =>
            obtain ⟨rfl, -⟩ := List.cons.inj hm
            exact absurd hfront (h front m rfl)
      rw [hw] at hsegment
      exact .inr ⟨w, hw, (isSegment_behind_iff hdepth).mp hsegment⟩
  · rintro (⟨rfl, hfirst⟩ | ⟨w, rfl, hrest⟩)
    · exact (isSegment_first_iff h hdepth).mpr hfirst
    · exact (isSegment_behind_iff hdepth).mpr hrest

/-! ## Splitting -/

/-- Splitting goes on to the next comma of depth zero, or to the end; `read` is what is read of the first segment. -/
theorem splitFrom_next (start : Nat) (read cs : List Char) (hread : Inner read) :
    let spans := splitFrom (depthOf read) start read.reverse (start + byteLength read) cs
    (Inner (read ++ cs) ∧ spans = if depthOf (read ++ cs) = 0 then (trimSegment start (read ++ cs)).toList else []) ∨
    ∃ a rest, cs = a ++ ',' :: rest ∧ Inner (read ++ a) ∧ depthOf (read ++ a) = 0 ∧
      spans = (trimSegment start (read ++ a)).toList ++
        splitFrom 0 (start + byteLength (read ++ a) + 1) [] (start + byteLength (read ++ a) + 1) rest := by
  induction cs generalizing read with
  | nil =>
    refine .inl ⟨by rwa [List.append_nil], ?_⟩
    rw [splitFrom, List.reverse_reverse, List.append_nil]
  | cons c cs ih =>
    dsimp only
    rw [splitFrom]
    split
    · rename_i hc
      obtain ⟨hcomma, hdepth⟩ := Bool.and_eq_true_iff.mp hc
      obtain rfl := eq_of_beq hcomma
      have hdepth : depthOf read = 0 := eq_of_beq hdepth
      refine .inr ⟨[], cs, rfl, by rwa [List.append_nil], by rwa [List.append_nil], ?_⟩
      rw [List.append_nil, List.reverse_reverse, hdepth]
      rfl
    · rename_i hc
      have hnext : Inner (read ++ [c]) := by
        refine hread.concat ?_
        rintro rfl hdepth
        simp [hdepth] at hc
      have hstep := ih (read ++ [c]) hnext
      rw [depthOf_concat, List.reverse_concat, Text.byteLength_append, Text.byteLength_cons, Text.byteLength_nil,
        Nat.add_zero, ← Nat.add_assoc] at hstep
      rcases hstep with ⟨hinner, hspans⟩ | ⟨a, rest, rfl, hinner, hdepth, hspans⟩
      · rw [← List.append_cons] at hinner hspans
        exact .inl ⟨hinner, hspans⟩
      · rw [← List.append_cons] at hinner hdepth hspans
        exact .inr ⟨c :: a, rest, rfl, hinner, hdepth, hspans⟩

theorem splitFrom_first (start : Nat) (cs : List Char) :
    (Inner cs ∧ splitFrom 0 start [] start cs = if depthOf cs = 0 then (trimSegment start cs).toList else []) ∨
    ∃ first rest, cs = first ++ ',' :: rest ∧ Inner first ∧ depthOf first = 0 ∧ splitFrom 0 start [] start cs =
      (trimSegment start first).toList ++ splitFrom 0 (start + byteLength first + 1) []
      (start + byteLength first + 1) rest :=
  splitFrom_next start [] cs inner_nil

/-- The spans are those of the segments, but for the last one if a bracket is open at the end. -/
theorem mem_splitFrom_iff (start : Nat) (cs : List Char) : s ∈ splitFrom 0 start [] start cs ↔
    ∃ u segment v, IsSegment cs u segment v ∧ depthOf (u ++ segment) = 0 ∧
    Trimmed (start + byteLength u) segment s := by
  induction hlength : cs.length using Nat.strongRecOn generalizing start cs with
  | _ length ih =>
    rcases splitFrom_first start cs with ⟨hinner, hspans⟩ | ⟨first, rest, rfl, hinner, hdepth, hspans⟩
    · rw [hspans]
      constructor
      · intro hs
        split at hs
        · rename_i hdepth
          exact ⟨[], cs, [], (isSegment_iff_of_inner hinner).mpr ⟨rfl, rfl, rfl⟩, hdepth,
            trimSegment_eq_some_iff.mp (Option.mem_toList.mp hs)⟩
        · cases hs
      · rintro ⟨u, segment, v, hsegment, hdepth, htrimmed⟩
        obtain ⟨rfl, rfl, rfl⟩ := (isSegment_iff_of_inner hinner).mp hsegment
        rw [List.nil_append] at hdepth
        rw [if_pos hdepth]
        exact Option.mem_toList.mpr (trimSegment_eq_some_iff.mpr htrimmed)
    · have hshorter : rest.length < length := by
        rw [← hlength, List.length_append, List.length_cons]
        omega
      have hrest := ih rest.length hshorter (start + byteLength first + 1) rest rfl
      have hoffset (w : List Char) :
          start + byteLength (first ++ ',' :: w) = start + byteLength first + 1 + byteLength w := by
        rw [Text.byteLength_append, Text.byteLength_cons, show ','.utf8Size = 1 from rfl]
        omega
      rw [hspans, List.mem_append, hrest]
      constructor
      · rintro (hs | ⟨w, segment, v, hsegment, hzero, htrimmed⟩)
        · exact ⟨[], first, ',' :: rest, (isSegment_first_iff hinner hdepth).mpr ⟨rfl, rfl⟩, hdepth,
            trimSegment_eq_some_iff.mp (Option.mem_toList.mp hs)⟩
        · refine ⟨first ++ ',' :: w, segment, v, (isSegment_behind_iff hdepth).mpr hsegment, ?_, by rwa [hoffset]⟩
          rw [List.append_assoc, List.cons_append, depthOf_append_comma hdepth]
          exact hzero
      · rintro ⟨u, segment, v, hsegment, hzero, htrimmed⟩
        obtain ⟨rfl, rfl, -⟩ | ⟨w, rfl, hbehind⟩ := (isSegment_comma_iff hinner hdepth).mp hsegment
        · exact .inl (Option.mem_toList.mpr (trimSegment_eq_some_iff.mpr htrimmed))
        · rw [List.append_assoc, List.cons_append, depthOf_append_comma hdepth] at hzero
          rw [hoffset] at htrimmed
          exact .inr ⟨w, segment, v, hbehind, hzero, htrimmed⟩

/-- If no bracket is open at the end, every character is in a span, but for blanks and commas of depth zero. -/
theorem splitFrom_covers (start : Nat) (cs x y : List Char) (hclosed : depthOf cs = 0) (h : cs = x ++ c :: y)
    (hc : Text.isBlank c = false) (hcomma : ¬(c = ',' ∧ depthOf x = 0)) :
    ∃ s ∈ splitFrom 0 start [] start cs, s.start ≤ start + byteLength x ∧ start + byteLength x + c.utf8Size ≤
      s.stop := by
  induction hlength : cs.length using Nat.strongRecOn generalizing start cs x with
  | _ length ih =>
    rcases splitFrom_first start cs with ⟨-, hspans⟩ | ⟨first, rest, rfl, -, hdepth, hspans⟩
    · rw [hspans, if_pos hclosed]
      obtain ⟨s, hs, hcovers⟩ := trimSegment_covers h hc start
      exact ⟨s, Option.mem_toList.mpr hs, hcovers⟩
    · rw [hspans]
      rw [depthOf_append_comma hdepth] at hclosed
      rcases List.append_eq_append_iff.mp h with ⟨m, rfl, hm⟩ | ⟨m, rfl, hm⟩
      · cases m with
        | nil =>
          rw [List.append_nil] at hcomma
          exact absurd ⟨(List.cons.inj hm).1.symm, hdepth⟩ hcomma
        | cons d m =>
          obtain ⟨rfl, hrest⟩ := List.cons.inj hm
          rw [depthOf_append_comma hdepth] at hcomma
          have hshorter : rest.length < length := by
            rw [← hlength, List.length_append, List.length_cons]
            omega
          obtain ⟨s, hs, hstart, hstop⟩ := ih _ hshorter (start + byteLength first + 1) rest m hclosed hrest hcomma rfl
          refine ⟨s, List.mem_append_right _ hs, ?_⟩
          rw [Text.byteLength_append, Text.byteLength_cons, show ','.utf8Size = 1 from rfl]
          omega
      · cases m with
        | nil =>
          rw [List.append_nil] at hdepth
          exact absurd ⟨(List.cons.inj hm).1, hdepth⟩ hcomma
        | cons d m =>
          obtain ⟨rfl, -⟩ := List.cons.inj hm
          obtain ⟨s, hs, hcovers⟩ := trimSegment_covers (rfl : x ++ c :: m = x ++ c :: m) hc start
          exact ⟨s, List.mem_append_left _ (Option.mem_toList.mpr hs), hcovers⟩

/-! ## Arguments -/

theorem eq_of_covers {spans : List Span} (h : spans.Pairwise fun s t => s.stop ≤ t.start) {s t : Span} (hs : s ∈ spans)
    (ht : t ∈ spans) {n : Nat} (hsn : s.Covers n) (htn : t.Covers n) : s = t := by
  induction spans with
  | nil => cases hs
  | cons r spans ih =>
    obtain ⟨hr, hspans⟩ := List.pairwise_cons.mp h
    have hlt := hsn.2
    have hlt' := htn.2
    rcases List.mem_cons.mp hs with rfl | hs'
    · rcases List.mem_cons.mp ht with rfl | ht'
      · rfl
      · have := Nat.le_trans (hr t ht') htn.1
        omega
    · rcases List.mem_cons.mp ht with rfl | ht'
      · have := Nat.le_trans (hr s hs') hsn.1
        omega
      · exact ih hspans hs' ht'

theorem splitArguments_tight {span : Span} (hs : s ∈ splitArguments mask span) :
    ∃ text, cut mask s = .ok text ∧ Tight text := by
  obtain ⟨front, part, tail, rest, rfl, -, -, hpart, -⟩ := mem_splitArguments hs
  obtain ⟨lead, text, blanks, rfl, -, htight, -, hstart, hstop⟩ := trimSegment_eq_some_iff.mp hpart
  refine ⟨text, cut_ok_iff.mpr ⟨front ++ lead, blanks ++ (tail ++ rest), by simp, ?_, hstop.symm⟩, htight⟩
  rw [Text.byteLength_append, hstart]

/-- **Splitting arguments loses nothing.** The spans of the arguments between two offsets are not empty, without
blanks at their ends, between the offsets, in order and disjoint. If all brackets between the offsets are closed, then
they are the spans of the segments between commas of depth zero, without the blanks around them and but for blank
ones; and every byte of a character that is neither blank nor such a comma is in exactly one of them. -/
theorem arguments_partition (mask : List Char) (span : Span) (h : span.LiesIn mask) :
    ∃ part, cut mask span = .ok part ∧
      (∀ s ∈ splitArguments mask span, span.start ≤ s.start ∧ s.start < s.stop ∧ s.stop ≤ span.stop ∧
        ∃ text, cut mask s = .ok text ∧ Tight text) ∧
      ((splitArguments mask span).Pairwise fun s t => s.stop ≤ t.start) ∧
      (depthOf part = 0 →
        (∀ s, s ∈ splitArguments mask span ↔
          ∃ u segment v, IsSegment part u segment v ∧ Trimmed (span.start + byteLength u) segment s) ∧
        ∀ x c y, part = x ++ c :: y → Text.isBlank c = false → ¬(c = ',' ∧ depthOf x = 0) →
          ∀ n, span.start + byteLength x ≤ n → n < span.start + byteLength x + c.utf8Size →
            ∃ s ∈ splitArguments mask span, s.Covers n ∧ ∀ t ∈ splitArguments mask span, t.Covers n → t = s) := by
  obtain ⟨part, hcut, hpart⟩ := cut_gives h
  have hsplit : splitArguments mask span = splitFrom 0 span.start [] span.start part := by
    rw [splitArguments, hpart]
  have hordered := splitArguments_ordered mask span
  refine ⟨part, hcut, fun s hs => ?_, hordered, fun hclosed => ⟨fun s => ?_, fun x c y hx hc hcomma n hle hlt => ?_⟩⟩
  · obtain ⟨hstart, hstop⟩ := splitArguments_within s hs
    exact ⟨hstart, splitArguments_ne s hs, hstop, splitArguments_tight hs⟩
  · rw [hsplit, mem_splitFrom_iff]
    constructor
    · rintro ⟨u, segment, v, hsegment, -, htrimmed⟩
      exact ⟨u, segment, v, hsegment, htrimmed⟩
    · rintro ⟨u, segment, v, hsegment, htrimmed⟩
      refine ⟨u, segment, v, hsegment, ?_, htrimmed⟩
      -- the last segment goes up to the end, where all brackets are closed
      obtain rfl | ⟨-, -, hzero⟩ := hsegment.stop
      · rw [← List.append_nil segment, ← hsegment.split, hclosed]
      · exact hzero
  · obtain ⟨s, hs, hstart, hstop⟩ := splitFrom_covers span.start part x y hclosed hx hc hcomma
    rw [← hsplit] at hs
    have hcovers : s.Covers n := ⟨by omega, by omega⟩
    exact ⟨s, hs, hcovers, fun t ht htn => eq_of_covers hordered ht hs htn hcovers⟩

/-- A comma in a bracket, an argument of nothing, and a character of two bytes, of which this is the second. -/
theorem arguments_partition_nested :
    let mask := "f( [a, é] ,, \x7bx\x7d )".toList
    let span : Span := ⟨2, 18⟩
    let part := " [a, é] ,, \x7bx\x7d ".toList
    span.LiesIn mask ∧ cut mask span = .ok part ∧ depthOf part = 0 ∧ splitArguments mask span = [⟨3, 10⟩, ⟨14, 17⟩] ∧
      ∃ s ∈ splitArguments mask span, s.Covers 8 ∧ ∀ t ∈ splitArguments mask span, t.Covers 8 → t = s := by
  intro mask span part
  have hlies : span.LiesIn mask := Text.slice?_isSome_iff.mp (by decide)
  have hcut : cut mask span = .ok part := cut_ok_iff.mpr ⟨"f(".toList, ")".toList, by decide, by decide, by decide⟩
  have hdepth : depthOf part = 0 := by decide
  have hspans : splitArguments mask span = [⟨3, 10⟩, ⟨14, 17⟩] := by decide +kernel
  obtain ⟨part', hpart, -, -, hclosed⟩ := arguments_partition mask span hlies
  obtain rfl : part' = part := Except.ok.inj (hpart.symm.trans hcut)
  obtain ⟨-, hcovered⟩ := hclosed hdepth
  have hsplit : part = " [a, ".toList ++ 'é' :: "] ,, \x7bx\x7d ".toList := by decide
  exact ⟨hlies, hcut, hdepth, hspans, hcovered _ _ _ hsplit (by decide) (by decide) 8 (by decide) (by decide)⟩

end SourceAudit.Outline
