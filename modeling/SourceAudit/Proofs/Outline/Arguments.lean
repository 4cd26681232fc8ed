import SourceAudit.Outline.Arguments
import SourceAudit.Proofs.Outline.Mask

/-!
# Arguments are spans of the mask

* `Gives x P` : the computation `x` succeeds, with a result that satisfies `P`;
* `Span.ShowsIn s mask` : the ends of `s` are ends of characters that show in `mask`, so `s` is a span of the line too;
* `cut_ok_iff` : what can be cut out of a text;
* `Unclosed cs`, `Balanced cs` : no parenthesis of a text closes one before it, and all that it opens are closed;
* `closingParen_balanced` : a parenthesis is closed behind a balanced text, or never;
* `mem_splitArguments` : the arguments of a call are what stands between commas, without the blanks around it;
* `splitArguments_shows`, `splitArguments_within` : they start and end with characters that show, between the
  parentheses;
* `splitArguments_ordered`, `splitArguments_ends` : they come one after the other, each up to a blank, a comma or the
  end.
-/

namespace SourceAudit.Outline

open Text (byteLength IsBoundary IsEdge)

variable {line mask : List Char}

/-! ## Results -/

/-- The computation succeeds, with a result that satisfies a predicate. -/
def Gives {α : Type} (x : Except BuildError α) (P : α → Prop) : Prop := ∃ a, x = .ok a ∧ P a

section Gives

variable {α β σ : Type} {P : α → Prop} {Q : β → Prop}

theorem Gives.bind {x : Except BuildError α} {f : α → Except BuildError β} (h : Gives x P)
    (hf : ∀ a, P a → Gives (f a) Q) : Gives (x >>= f) Q := by
  obtain ⟨a, rfl, ha⟩ := h
  exact hf a ha

theorem Gives.ok {a : α} (h : P a) : Gives (.ok a) P := ⟨a, rfl, h⟩

theorem Gives.mapM {f : α → Except BuildError β} {xs : List α} (h : ∀ a ∈ xs, Gives (f a) Q) :
    Gives (xs.mapM f) fun bs => ∀ b ∈ bs, Q b := by
  induction xs with
  | nil => exact .ok nofun
  | cons a xs ih =>
    rw [List.mapM_cons]
    refine (h a List.mem_cons_self).bind fun b hb => ?_
    refine (ih fun a' ha => h a' (List.mem_cons_of_mem a ha)).bind fun bs hbs => ?_
    exact .ok (List.forall_mem_cons.2 ⟨hb, hbs⟩)

theorem Gives.foldlM {f : σ → α → Except BuildError σ} {xs : List α} (h : ∀ s, ∀ a ∈ xs, Gives (f s a) fun _ => True)
    (s : σ) : Gives (xs.foldlM f s) fun _ => True := by
  induction xs generalizing s with
  | nil => exact .ok trivial
  | cons a xs ih =>
    rw [List.foldlM_cons]
    refine (h s a List.mem_cons_self).bind fun s' _ => ?_
    exact ih (fun s'' a' ha => h s'' a' (List.mem_cons_of_mem a ha)) s'

end Gives

/-! ## Spans -/

def Span.ShowsIn (s : Span) (mask : List Char) : Prop := s.start ≤ s.stop ∧ IsEdge mask s.start ∧ IsEdge mask s.stop

variable {s : Span}

theorem Span.ShowsIn.liesIn (h : s.ShowsIn mask) : s.LiesIn mask := ⟨h.1, h.2.1.isBoundary, h.2.2.isBoundary⟩

theorem Span.ShowsIn.liesIn_line (h : s.ShowsIn mask) (hb : Blanked line mask) : s.LiesIn line :=
  ⟨h.1, (hb.isEdge h.2.1).isBoundary, (hb.isEdge h.2.2).isBoundary⟩

theorem cut_gives {cs : List Char} (h : s.LiesIn cs) :
    Gives (cut cs s) fun part => Text.slice? cs s.start s.stop = some part := by
  obtain ⟨part, hp⟩ := Option.isSome_iff_exists.1 (Text.slice?_isSome_iff.2 h)
  refine ⟨part, ?_, hp⟩
  rw [cut, hp]

theorem cut_ok_iff {cs w : List Char} :
    cut cs s = .ok w ↔ ∃ a b, cs = a ++ (w ++ b) ∧ byteLength a = s.start ∧ s.start + byteLength w = s.stop := by
  rw [← Text.slice?_eq_some_iff, cut]
  split <;> simp_all

/-! ## Parentheses -/

/-- Every front of the text closes at most as many parentheses as it opens. -/
def Unclosed (cs : List Char) : Prop := ∀ front, front <+: cs → front.count ')' ≤ front.count '('

/-- No parenthesis of the text closes one before it, and all parentheses that it opens are closed. -/
structure Balanced (cs : List Char) : Prop where
  unclosed : Unclosed cs
  count_eq : cs.count ')' = cs.count '('

/-- Behind `depth` open parentheses, the text does not close one more. -/
def UnclosedBelow (depth : Nat) (cs : List Char) : Prop :=
  ∀ front, front <+: cs → front.count ')' ≤ front.count '(' + depth

theorem UnclosedBelow.cons {c : Char} {cs : List Char} {depth depth' : Nat} (h : UnclosedBelow depth' cs)
    (hc : [c].count ')' + depth' ≤ [c].count '(' + depth) : UnclosedBelow depth (c :: cs) := by
  intro front hfront
  rcases List.prefix_cons_iff.mp hfront with rfl | ⟨tail, rfl, htail⟩
  · simp
  · have := h tail htail
    rw [List.count_cons, List.count_cons]
    rw [List.count_singleton, List.count_singleton] at hc
    omega

/-- With a parenthesis open, the search ends where it is closed, or at the end of a text that does not close it. -/
theorem closingFrom_gives (depth offset : Nat) (cs : List Char) : Gives (closingFrom (depth + 1) offset cs) fun close =>
    (close = none ∧ UnclosedBelow depth cs) ∨
      ∃ inner rest, cs = inner ++ ')' :: rest ∧ close = some (offset + byteLength inner) ∧ UnclosedBelow depth inner ∧
        inner.count ')' = inner.count '(' + depth := by
  induction cs generalizing depth offset with
  | nil =>
    refine .ok (.inl ⟨rfl, fun front hfront => ?_⟩)
    rw [List.prefix_nil.mp hfront]
    simp
  | cons c cs ih =>
    -- one character further, with the depth that it leaves
    have step {depth' : Nat} (hc : [c].count ')' + depth' = [c].count '(' + depth) :
        Gives (closingFrom (depth' + 1) (offset + c.utf8Size) cs) fun close =>
          (close = none ∧ UnclosedBelow depth (c :: cs)) ∨
            ∃ inner rest, c :: cs = inner ++ ')' :: rest ∧ close = some (offset + byteLength inner) ∧
              UnclosedBelow depth inner ∧ inner.count ')' = inner.count '(' + depth := by
      obtain ⟨close, hok, hclose⟩ := ih depth' (offset + c.utf8Size)
      refine ⟨close, hok, ?_⟩
      obtain ⟨rfl, hopen⟩ | ⟨inner, rest, rfl, rfl, hopen, hcount⟩ := hclose
      · exact .inl ⟨rfl, hopen.cons (Nat.le_of_eq hc)⟩
      · refine .inr ⟨c :: inner, rest, rfl, ?_, hopen.cons (Nat.le_of_eq hc), ?_⟩
        · rw [Text.byteLength_cons, Nat.add_assoc]
        · rw [List.count_cons, List.count_cons]
          rw [List.count_singleton, List.count_singleton] at hc
          omega
    unfold closingFrom
    split
    · rename_i hc
      obtain rfl := eq_of_beq hc
      exact step (by simp [Nat.add_comm])
    · split
      · rename_i hc
        obtain rfl := eq_of_beq hc
        cases depth with
        | zero => exact .ok (.inr ⟨[], cs, rfl, rfl, fun front hfront => by simp [List.prefix_nil.mp hfront], rfl⟩)
        | succ depth => exact step (by simp [Nat.add_comm])
      · rename_i hopen hclose
        exact step (by simp_all)

/-- An opening parenthesis is closed behind a balanced text, or never. -/
theorem closingParen_balanced {a b : List Char} (h : mask = a ++ '(' :: b) :
    Gives (closingParen mask (byteLength a)) fun close =>
      (close = none ∧ Unclosed b) ∨
        ∃ inner rest, b = inner ++ ')' :: rest ∧ close = some (byteLength a + 1 + byteLength inner) ∧
        Balanced inner := by
  have hdrop : Text.dropBytes? mask (byteLength a) = some ('(' :: b) := Text.dropBytes?_eq_some_iff.2 ⟨a, h, rfl⟩
  obtain ⟨close, hok, hclose⟩ := closingFrom_gives 0 (byteLength a + 1) b
  refine ⟨close, ?_, ?_⟩
  · rw [closingParen, hdrop]
    exact hok
  · obtain ⟨rfl, hopen⟩ | ⟨inner, rest, rfl, rfl, hopen, hcount⟩ := hclose
    · exact .inl ⟨rfl, hopen⟩
    · exact .inr ⟨inner, rest, rfl, rfl, hopen, hcount⟩

theorem closingParen_gives {a b : List Char} (h : mask = a ++ '(' :: b) :
    Gives (closingParen mask (byteLength a)) fun close =>
      ∀ n, close = some n → byteLength a < n ∧ ∃ a' b', mask = a' ++ ')' :: b' ∧ n = byteLength a' := by
  obtain ⟨close, hok, hclose⟩ := closingParen_balanced h
  refine ⟨close, hok, fun n hn => ?_⟩
  obtain ⟨rfl, -⟩ | ⟨inner, rest, rfl, rfl, -⟩ := hclose
  · cases hn
  · cases hn
    refine ⟨by omega, a ++ '(' :: inner, rest, by rw [h]; simp, ?_⟩
    rw [Text.byteLength_append, Text.byteLength_cons, ← Nat.add_assoc]
    rfl

/-- Behind a parenthesis in a balanced text, more are closed than opened. -/
theorem Balanced.count_lt {u v : List Char} (h : Balanced (u ++ '(' :: v)) : v.count '(' < v.count ')' := by
  have hfront := h.unclosed u (List.prefix_append _ _)
  have hall := h.count_eq
  rw [List.count_append, List.count_append, List.count_cons_self, List.count_cons_of_ne (by decide)] at hall
  omega

theorem Balanced.closes {u v rest inner rest' : List Char} (h : Balanced (u ++ '(' :: v)) (hinner : Unclosed inner)
    (hsplit : v ++ rest = inner ++ rest') : byteLength inner < byteLength v := by
  refine Nat.lt_of_not_le fun hle => ?_
  obtain ⟨m, rfl, -⟩ := Text.split_le hsplit hle
  have := hinner v (List.prefix_append _ _)
  have := h.count_lt
  omega

/-- Nothing that is unclosed goes on behind the parenthesis that closes a balanced text. -/
theorem Balanced.le_of_unclosed {u tail inner rest : List Char} (h : Balanced u) (hinner : Unclosed inner)
    (hsplit : u ++ ')' :: tail = inner ++ rest) : byteLength inner ≤ byteLength u := by
  refine Nat.le_of_not_lt fun hlt => ?_
  obtain ⟨m, rfl, -⟩ := Text.split_lt hsplit hlt
  have hclosed := hinner (u ++ [')']) (by simp)
  rw [List.count_append, List.count_append, List.count_singleton_self, h.count_eq] at hclosed
  exact absurd hclosed (by simp)

/-! ## Segments -/

theorem trimSegment_spec {start : Nat} {segment : List Char} (h : trimSegment start segment = some s) :
    ∃ u w v, segment = u ++ (w ++ v) ∧ w ≠ [] ∧ (∀ c ∈ v, Text.isBlank c = true) ∧ s.start = start + byteLength u ∧
      s.stop = s.start + byteLength w := by
  obtain ⟨u, hu, -, -⟩ := Text.trimStart_spec segment
  obtain ⟨v, hv, hblank, -⟩ := Text.dropEndWhile_spec Text.isBlank (Text.trimStart segment)
  rw [trimSegment] at h
  split at h
  · cases h
  · rename_i hne
    cases h
    have hlength := congrArg byteLength hu
    rw [Text.byteLength_append] at hlength
    refine ⟨u, Text.trim segment, v, ?_, by simpa using hne, hblank, ?_, rfl⟩
    · rw [Text.trim, Text.trimEnd, ← hv, ← hu]
    · show start + (byteLength segment - byteLength (Text.trimStart segment)) = _
      omega

theorem trimSegment_within {start : Nat} {segment : List Char} (h : trimSegment start segment = some s) :
    start ≤ s.start ∧ s.stop ≤ start + byteLength segment := by
  obtain ⟨u, w, v, rfl, -, -, hstart, hstop⟩ := trimSegment_spec h
  rw [Text.byteLength_append, Text.byteLength_append]
  omega

/-- A segment without the blanks around it starts and ends with characters that show. -/
theorem trimSegment_shows {lead segment tail : List Char} (h : trimSegment (byteLength lead) segment = some s) :
    s.ShowsIn (lead ++ (segment ++ tail)) := by
  obtain ⟨blanks, hseg, -, hfirst⟩ := Text.trimStart_spec segment
  rw [trimSegment] at h
  split at h
  · cases h
  · rename_i hne
    cases h
    have hend : Text.trimEnd (Text.trimStart segment) ≠ [] := by simpa [Text.trim] using hne
    have hwhole : lead ++ (segment ++ tail) = (lead ++ blanks) ++ (Text.trimStart segment ++ tail) := by
      calc lead ++ (segment ++ tail) = lead ++ (blanks ++ Text.trimStart segment ++ tail) := by rw [← hseg]
        _ = (lead ++ blanks) ++ (Text.trimStart segment ++ tail) := by simp only [List.append_assoc]
    have hstart : byteLength lead + (byteLength segment - byteLength (Text.trimStart segment)) =
        byteLength (lead ++ blanks) := by
      have := congrArg byteLength hseg
      rw [Text.byteLength_append] at this
      rw [Text.byteLength_append]
      omega
    rw [hwhole, hstart]
    refine ⟨Nat.le_add_right _ _, ?_, (Text.isEdge_trimEnd hend).shift _ _⟩
    cases hts : Text.trimStart segment with
    | nil => exact absurd (by rw [hts]; rfl) hend
    | cons c rest =>
      exact ⟨lead ++ blanks, c, rest ++ tail, rfl, Text.ne_space_of_not_blank (hfirst c rest hts), .inl rfl⟩

/-- An argument is a segment, up to a comma or the end, without the blanks around it. -/
theorem mem_splitFrom {depth : Int} {lead segment cs : List Char} {start offset : Nat}
    (hstart : byteLength lead = start) (ho : offset = start + byteLength segment) :
    ∀ s ∈ splitFrom depth start segment offset cs, ∃ front part tail,
      lead ++ (segment.reverse ++ cs) = front ++ (part ++ tail) ∧ start ≤ byteLength front ∧
        trimSegment (byteLength front) part = some s ∧ ∀ c ∈ tail.head?, c = ',' := by
  fun_induction splitFrom depth start segment offset cs generalizing lead with
  | case1 start segment offset =>
    intro s hs
    subst hstart
    exact ⟨lead, segment.reverse, [], rfl, Nat.le_refl _, Option.mem_toList.mp hs, by simp⟩
  | case2 => simp
  | case3 depth start segment offset c cs next hc =>
    rename_i ih
    intro s hs
    subst hstart
    rcases List.mem_append.mp hs with hs | hs
    · have hcomma : c = ',' := by
        rw [Bool.and_eq_true, beq_iff_eq] at hc
        exact hc.1
      exact ⟨lead, segment.reverse, c :: cs, rfl, Nat.le_refl _, Option.mem_toList.mp hs, by simp [hcomma]⟩
    · have hlead : byteLength (lead ++ (segment.reverse ++ [c])) = offset + c.utf8Size := by
        simp only [Text.byteLength_append, Text.byteLength_reverse, Text.byteLength_cons, Text.byteLength_nil]
        omega
      obtain ⟨front, part, tail, hsplit, hle, hpart⟩ := ih hlead rfl s hs
      refine ⟨front, part, tail, ?_, by omega, hpart⟩
      rw [← hsplit]
      simp
  | case4 depth start segment offset c cs next hc depth' =>
    rename_i ih
    intro s hs
    have hnext : offset + c.utf8Size = start + byteLength (c :: segment) := by
      rw [Text.byteLength_cons]
      omega
    have := ih hstart hnext s hs
    simpa using this

theorem splitFrom_ordered {depth : Int} {lead segment cs : List Char} {start offset : Nat}
    (hstart : byteLength lead = start) (ho : offset = start + byteLength segment) :
    (splitFrom depth start segment offset cs).Pairwise fun s t => s.stop ≤ t.start := by
  have hone (o : Option Span) : o.toList.Pairwise fun s t => s.stop ≤ t.start := by
    cases o with
    | none => exact List.Pairwise.nil
    | some s => exact List.pairwise_singleton _ _
  fun_induction splitFrom depth start segment offset cs generalizing lead with
  | case1 => exact hone _
  | case2 => exact List.Pairwise.nil
  | case3 depth start segment offset c cs next hc =>
    rename_i ih
    have hlead : byteLength (lead ++ (segment.reverse ++ [c])) = offset + c.utf8Size := by
      simp only [Text.byteLength_append, Text.byteLength_reverse, Text.byteLength_cons, Text.byteLength_nil]
      omega
    refine List.pairwise_append.mpr ⟨hone _, ih hlead rfl, fun s hs t ht => ?_⟩
    -- this one ends before the comma, and the others start behind it
    have hs := (trimSegment_within (Option.mem_toList.mp hs)).2
    obtain ⟨front, part, tail, -, hle, hpart, -⟩ := mem_splitFrom hlead rfl t ht
    have ht := (trimSegment_within hpart).1
    rw [Text.byteLength_reverse] at hs
    omega
  | case4 depth start segment offset c cs next hc depth' =>
    rename_i ih
    exact ih hstart (by rw [Text.byteLength_cons]; omega)

/-! ## Arguments -/

theorem mem_splitArguments {span : Span} (hs : s ∈ splitArguments mask span) :
    ∃ front part tail rest, mask = front ++ (part ++ (tail ++ rest)) ∧ span.start ≤ byteLength front ∧
      byteLength (front ++ (part ++ tail)) = span.stop ∧ trimSegment (byteLength front) part = some s ∧
      ∀ c ∈ tail.head?, c = ',' := by
  rw [splitArguments] at hs
  split at hs
  · rename_i whole hwhole
    obtain ⟨a, rest, rfl, ha, hstop⟩ := Text.slice?_eq_some_iff.1 hwhole
    obtain ⟨front, part, tail, hsplit, hle, hpart⟩ := mem_splitFrom ha rfl s hs
    have hsplit : a ++ whole = front ++ (part ++ tail) := hsplit
    refine ⟨front, part, tail, rest, ?_, hle, ?_, hpart⟩
    · rw [← List.append_assoc, hsplit]
      simp
    · rw [← hsplit, Text.byteLength_append, ha, hstop]
  · cases hs

/-- The arguments of a call start and end with characters that show. -/
theorem splitArguments_shows {span : Span} : ∀ s ∈ splitArguments mask span, s.ShowsIn mask := by
  intro s hs
  obtain ⟨front, part, tail, rest, rfl, -, -, hpart, -⟩ := mem_splitArguments hs
  exact trimSegment_shows hpart

/-- The arguments of a call stand where they are looked for. -/
theorem splitArguments_within {span : Span} :
    ∀ s ∈ splitArguments mask span, span.start ≤ s.start ∧ s.stop ≤ span.stop := by
  intro s hs
  obtain ⟨front, part, tail, rest, -, hle, hstop, hpart, -⟩ := mem_splitArguments hs
  have := trimSegment_within hpart
  rw [Text.byteLength_append, Text.byteLength_append] at hstop
  omega

theorem splitArguments_ne {span : Span} : ∀ s ∈ splitArguments mask span, s.start < s.stop := by
  intro s hs
  obtain ⟨front, part, tail, rest, -, -, -, hpart, -⟩ := mem_splitArguments hs
  obtain ⟨u, w, v, -, hne, -, -, hstop⟩ := trimSegment_spec hpart
  have := Text.byteLength_pos hne
  omega

theorem splitArguments_ordered (mask : List Char) (span : Span) :
    (splitArguments mask span).Pairwise fun s t => s.stop ≤ t.start := by
  rw [splitArguments]
  split
  · rename_i part hpart
    obtain ⟨a, b, -, ha, -⟩ := Text.slice?_eq_some_iff.1 hpart
    exact splitFrom_ordered ha rfl
  · exact List.Pairwise.nil

theorem splitArguments_ends {span : Span} (hs : s ∈ splitArguments mask span) :
    s.stop = span.stop ∨ ∃ x c y, mask = x ++ c :: y ∧ byteLength x = s.stop ∧ (c = ',' ∨ Text.isBlank c = true) := by
  obtain ⟨front, part, tail, rest, rfl, -, hend, hpart, hcomma⟩ := mem_splitArguments hs
  obtain ⟨u, w, v, rfl, -, hblank, hstart, hstop⟩ := trimSegment_spec hpart
  have hfront : byteLength (front ++ (u ++ w)) = s.stop := by
    rw [Text.byteLength_append, Text.byteLength_append]
    omega
  -- what follows are blanks, if there are any, and then the comma
  cases v with
  | nil =>
    cases tail with
    | nil => exact .inl (by simpa [hfront] using hend)
    | cons c tail => exact .inr ⟨_, c, tail ++ rest, by simp, hfront, .inl (hcomma c rfl)⟩
  | cons c v => exact .inr ⟨_, c, v ++ (tail ++ rest), by simp, hfront, .inr (hblank c List.mem_cons_self)⟩

end SourceAudit.Outline
