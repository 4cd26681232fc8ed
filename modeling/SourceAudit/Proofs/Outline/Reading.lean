import SourceAudit.Proofs.Outline.Declaration

/-!
# What candidates look like

* `CallText mask` : a call in a mask, with its name, its parenthesis and what stands inside;
* `AssignmentText mask` : an assigned name in a mask, with what stands before it;
* `Candidate.Reads mask c` : the text of a candidate, by its kind;
* `candidates_read` : all candidates of a line read as their kinds say.
-/

namespace SourceAudit.Outline

open Regex
open Text (byteLength)

variable {line mask : List Char} {m : Match}

/-! ## Calls -/

/-- A call in a mask: a name, perhaps blanks, a parenthesis, and what stands inside. It is closed where the inside is
balanced, or never, and then it goes on to the end of the code. -/
structure CallText (mask : List Char) where
  before : List Char
  name : List Char
  gap : List Char
  inner : List Char
  after : List Char
  closed : Bool
  text : mask = before ++ (name ++ (gap ++ '(' :: (inner ++ after)))
  isName : IsName name
  blank : ∀ c ∈ gap, Text.isBlank c = true
  closes : closed = true → Balanced inner ∧ after.head? = some ')'
  runsOut : closed = false → Unclosed inner ∧ byteLength (before ++ (name ++ (gap ++ '(' :: inner))) =
    (codeSpan mask).stop

namespace CallText

variable (t : CallText mask)

def opening : Nat := byteLength t.before + byteLength t.name + byteLength t.gap

/-- What stands between the parentheses. -/
def inside : Span := ⟨t.opening + 1, t.opening + 1 + byteLength t.inner⟩

/-- The call with its name and its parentheses. -/
def span : Span := ⟨byteLength t.before, t.inside.stop + t.closed.toNat⟩

end CallText

/-- A call is a name and an opening parenthesis, with only blanks between them. -/
theorem call_text (h : Matches callShape mask m) :
    ∃ a name gap b, mask = a ++ (name ++ (gap ++ '(' :: b)) ∧ IsName name ∧ (∀ c ∈ gap, Text.isBlank c = true) ∧
      groupSpan? m 1 = some ⟨byteLength a, byteLength a + byteLength name⟩ ∧
      m.stop = byteLength a + byteLength name + byteLength gap + 1 := by
  obtain ⟨p, q, rfl, -, ht, rfl⟩ := h
  obtain ⟨n, hn, n', hn', hparen⟩ := ht
  obtain ⟨rest, hrest, rfl⟩ := takes_word '(' rfl hparen
  obtain ⟨k, hk, hleft, hright, hstart, hstop⟩ := takes_group_lookup hn (by decide)
  obtain ⟨gap, hblank, hgr, hgl⟩ := takes_rep_set hn'
  obtain ⟨name, hpr, hkl, hname⟩ := takes_dottedName_isName hk
  rw [hleft, hkl] at hgl
  have hoffset : k.offset = byteLength p.left.reverse + byteLength name := by
    rw [Cursor.offset, hkl, Text.byteLength_append, Text.byteLength_reverse, Text.byteLength_reverse, Nat.add_comm]
    rfl
  refine ⟨p.left.reverse, name, gap, rest, ?_, hname, hblank, ?_, ?_⟩
  · rw [Cursor.text, show p.right = name ++ k.right from hpr, ← hright, hgr, hrest]
  · rw [← hoffset, Text.byteLength_reverse]
    refine groupSpan?_of_lookup ?_ ?_
    · exact (hn'.lookup_eq _ (by decide)).trans hstart
    · exact (hn'.lookup_eq _ (by decide)).trans hstop
  · show byteLength ('(' :: n'.left) = _
    rw [hgl]
    simp only [Text.byteLength_cons, Text.byteLength_append, Text.byteLength_reverse]
    show 1 + (byteLength gap + (byteLength name + byteLength p.left)) = _
    omega

/-! ## Assignments -/

/-- An assigned name in a mask. What stands before it ends with a blank, if it is not empty. -/
structure AssignmentText (mask : List Char) where
  before : List Char
  name : List Char
  after : List Char
  text : mask = before ++ (name ++ after)
  isName : IsName name
  apart : ∀ a c, before = a ++ [c] → Text.isBlank c = true
  no_paren : '(' ∉ before

/-- A repetition with at least one round ends with one. -/
theorem takes_plus_last {a : Regex} {p q : Cursor} (h : Takes (plus a) p q) : ∃ n, Takes a n q := by
  obtain ⟨k, hk, -, h⟩ := h
  cases k with
  | zero => simp at hk
  | succ k =>
    obtain ⟨n, hn, hq⟩ := h
    have hstar : Takes (star a) n q := ⟨k, .inl (Nat.zero_le k), nofun, hq⟩
    rcases takes_rep_last hstar with rfl | hlast
    · exact ⟨p, hn⟩
    · exact hlast

/-- The target of an assignment is a name behind blanks, and perhaps a word. -/
theorem assignment_text (h : Matches assignmentShape mask m) :
    ∃ t : AssignmentText mask, groupSpan? m 1 =
      some ⟨byteLength t.before, byteLength t.before + byteLength t.name⟩ := by
  obtain ⟨p, q, rfl, -, ht, rfl⟩ := h
  obtain ⟨p₁, ⟨hstart, rfl⟩, p₂, hblanks, p₃, hword, p₄, htarget, hrest⟩ := ht
  have hleft : p₁.left = [] := by simpa [Look.holds] using hstart
  obtain ⟨k, hk, -, -, hfirst, hlast⟩ := takes_group_lookup htarget (by decide)
  obtain ⟨name, hright, hkl, hname⟩ := takes_dottedName_isName hk
  have hparen : ∀ r ∈ [blanks, leading (oneOf ["const", "let", "var", "final", "auto"])], ∀ chars ∈ r.sets,
      chars.mem '(' = false := by decide +kernel
  have hother {r : Regex} {p q : Cursor} (hr : r ∈ [blanks, leading (oneOf ["const", "let", "var", "final", "auto"])])
      (h : Takes r p q) : Spells (· ≠ '(') p q := by
    refine h.alphabet fun chars hchars c hc => ?_
    rintro rfl
    rw [hparen r hr chars hchars] at hc
    cases hc
  obtain ⟨lead, hlead, hleadl, hne⟩ := (hother (by simp) hblanks).trans (hother (by simp) hword)
  rw [hleft, List.append_nil] at hleadl
  have hset {p q : Cursor} (h : Takes (set .blank) p q) : ∀ c rest, q.left = c :: rest → Text.isBlank c = true := by
    obtain ⟨d, rest, -, hd, rfl⟩ := h
    intro c rest hc
    cases hc
    exact hd
  have hbehind : ∀ c rest, p₃.left = c :: rest → Text.isBlank c = true := by
    rcases takes_opt hword with rfl | ⟨n, -, hn⟩
    · rcases takes_rep_last hblanks with rfl | ⟨n, hn⟩
      · simp [hleft]
      · exact hset hn
    · obtain ⟨n, hn⟩ := takes_plus_last hn
      exact hset hn
  refine ⟨⟨lead, name, k.right, ?_, hname, fun a c hc => hbehind c a.reverse ?_, fun hm => hne _ hm rfl⟩, ?_⟩
  · rw [Cursor.text, hleft, List.reverse_nil, List.nil_append, hlead, show p₃.right = name ++ k.right from hright]
  · rw [hleadl, hc]
    simp
  · have hoffset : p₃.offset = byteLength lead := by rw [Cursor.offset, hleadl, Text.byteLength_reverse]
    have hstop : k.offset = byteLength lead + byteLength name := by
      rw [Cursor.offset, hkl, Text.byteLength_append, Text.byteLength_reverse, Nat.add_comm]
      exact congrArg (· + byteLength name) hoffset
    dsimp only
    rw [← hstop, ← hoffset]
    exact groupSpan?_of_lookup ((hrest.lookup_eq 2 (by decide)).trans hfirst)
      ((hrest.lookup_eq 3 (by decide)).trans hlast)

/-! ## Candidates -/

inductive Candidate.Reads (mask : List Char) (c : Candidate) : Prop where
  | code : c.kind = .functionDeclaration ∨ c.kind = .importStatement → c.span = codeSpan mask → Reads mask c
  | assignment (t : AssignmentText mask) {start : Nat} : c.kind = .assignment → c.name = some (String.ofList t.name) →
      c.span.start = byteLength t.before → c.operands = [⟨start, c.span.stop⟩] →
      byteLength t.before + byteLength t.name < start → start ≤ c.span.stop → Reads mask c
  | call (t : CallText mask) : c.kind = .call → c.name = some (String.ofList t.name) → c.span = t.span →
      c.operands = splitArguments mask t.inside → Reads mask c
  | name {a w b : List Char} : c.kind = .member ∨ c.kind = .identifier → mask = a ++ (w ++ b) → IsName w →
      c.name = some (String.ofList w) → c.span = ⟨byteLength a, byteLength a + byteLength w⟩ → Reads mask c
  | string : c.kind = .stringLiteral → StringText mask c.span → Reads mask c

theorem Candidate.Reads.exists_callText {c : Candidate} (h : c.Reads mask) (hk : c.kind = .call) :
    ∃ t : CallText mask, c.name = some (String.ofList t.name) ∧ c.span = t.span ∧
      c.operands = splitArguments mask t.inside := by
  cases h with
  | call t _ hname hspan hoperands => exact ⟨t, hname, hspan, hoperands⟩
  | _ => simp_all

theorem Candidate.Reads.exists_assignmentText {c : Candidate} (h : c.Reads mask) (hk : c.kind = .assignment) :
    ∃ (t : AssignmentText mask) (start : Nat), c.name = some (String.ofList t.name) ∧
      c.span.start = byteLength t.before ∧ c.operands = [⟨start, c.span.stop⟩] ∧
      byteLength t.before + byteLength t.name < start := by
  cases h with
  | @assignment t start _ hname hspan hoperands hlt _ => exact ⟨t, start, hname, hspan, hoperands, hlt⟩
  | _ => simp_all

theorem name_of_cut {s : Span} {w : List Char} (h : cut mask s = .ok w) :
    ∃ a b, mask = a ++ (w ++ b) ∧ s = ⟨byteLength a, byteLength a + byteLength w⟩ := by
  obtain ⟨a, b, hmask, hstart, hstop⟩ := cut_ok_iff.mp h
  exact ⟨a, b, hmask, by rw [← hstart] at hstop; cases s; simp_all⟩

theorem isName_of_identifier {w : List Char} (h : identifierShape.isMatch w = true) : IsName w := by
  obtain ⟨m, hm⟩ := Option.isSome_iff_exists.mp h
  obtain ⟨p, q, rfl, -, ht, -⟩ := find?_matches hm
  obtain ⟨p', ⟨hstart, rfl⟩, q', hname, hend, rfl⟩ := ht
  have hleft : p'.left = [] := by simpa [Look.holds] using hstart
  have hright : q.right = [] := by simpa [Look.holds] using hend
  obtain ⟨w, hw, -, hisName⟩ := takes_dottedName_isName ⟨q, hname, takes_rep_zero true⟩
  rw [Cursor.text, hleft, hw, hright]
  simpa using hisName

theorem identifierCandidate?_reads {s : Span} :
    Yields (identifierCandidate? mask s) fun o => ∀ c, o = some c → c.Reads mask := by
  refine .after fun text htext => ?_
  dsimp only
  split
  · rename_i hshape
    refine .ok fun c hc => ?_
    cases hc
    rw [Bool.and_eq_true] at hshape
    obtain ⟨a, b, hmask, hs⟩ := name_of_cut htext
    exact .name (.inr rfl) hmask (isName_of_identifier hshape.1) rfl hs
  · exact .ok (by simp)

theorem memberCandidate_reads (h : Matches memberShape mask m) : Yields (memberCandidate mask m) (·.Reads mask) := by
  obtain ⟨p, q, rfl, -, ht, rfl⟩ := h
  obtain ⟨w, hp, hq, hw⟩ := takes_dottedName_isName (takes_memberShape ht)
  have hstop : q.offset = p.offset + byteLength w := by
    rw [Cursor.offset, hq, Text.byteLength_append, Text.byteLength_reverse, Nat.add_comm]
    rfl
  have hmask : p.text = p.left.reverse ++ (w ++ q.right) := by rw [Cursor.text, hp]
  refine .after fun name hname => .ok (.name (.inl rfl) hmask hw ?_ ?_)
  · obtain ⟨v, hv, rfl⟩ := textAt_ok_iff.mp hname
    have hcut : cut p.text ⟨p.offset, q.offset⟩ = .ok w :=
      cut_ok_iff.mpr ⟨_, _, hmask, Text.byteLength_reverse _, hstop.symm⟩
    cases hv.symm.trans hcut
    rfl
  · rw [Text.byteLength_reverse]
    exact congrArg (Span.mk p.offset) hstop

theorem codeEnd_split {a b : List Char} (h : mask = a ++ '(' :: b) :
    ∃ inner tail, b = inner ++ tail ∧ byteLength a + 1 + byteLength inner = (codeSpan mask).stop := by
  obtain ⟨tail, htrim, -, -⟩ := Text.dropEndWhile_spec Text.isBlank mask
  have hsplit : (a ++ ['(']) ++ b = Text.trimEnd mask ++ tail := by
    rw [List.append_assoc, List.singleton_append, ← h]
    exact htrim
  have hle : byteLength (a ++ ['(']) ≤ byteLength (Text.trimEnd mask) := by
    rw [Text.byteLength_append]
    exact codeStop_ge h (by decide)
  obtain ⟨inner, hinner, rfl⟩ := Text.split_le hsplit hle
  refine ⟨inner, tail, rfl, ?_⟩
  show _ = byteLength (Text.trimEnd mask)
  rw [hinner, Text.byteLength_append, Text.byteLength_append]
  rfl

theorem callCandidates_reads (declared : Option Nat) (h : Matches callShape mask m) :
    Yields (callCandidates mask declared m) fun cs => ∀ c ∈ cs, c.Reads mask := by
  obtain ⟨a, name, gap, b, hmask, hname, hblank, hcallee, hstop⟩ := call_text h
  have hparen : mask = (a ++ (name ++ gap)) ++ '(' :: b := by rw [hmask]; simp
  have hopening : byteLength (a ++ (name ++ gap)) = byteLength a + byteLength name + byteLength gap := by
    simp [Nat.add_assoc]
  rw [hopening.symm] at hstop
  simp only [callCandidates, hcallee, hstop, Nat.add_sub_cancel]
  refine .after fun called hcalled => ?_
  obtain ⟨w, hw, rfl⟩ := textAt_ok_iff.mp hcalled
  obtain rfl : w = name :=
    Except.ok.inj (hw.symm.trans (cut_ok_iff.mpr ⟨a, gap ++ '(' :: b, hmask, rfl, rfl⟩))
  split
  · exact .ok (List.forall_mem_nil _)
  · refine (closingParen_balanced hparen).yields.bind fun close hclose => ?_
    refine (Yields.mapM fun s _ => identifierCandidate?_reads).bind fun identifiers hids => .ok fun c hc => ?_
    rcases List.mem_append.mp hc with hc | hc
    · obtain ⟨o, ho, hc⟩ := List.mem_filterMap.mp hc
      exact hids o ho c hc
    · obtain rfl := List.mem_singleton.mp hc
      rw [hopening] at hclose ⊢
      obtain ⟨rfl, hopen⟩ | ⟨inner, rest, rfl, rfl, hbalanced⟩ := hclose
      · obtain ⟨inner, tail, rfl, hend⟩ := codeEnd_split hparen
        have hunclosed : Unclosed inner := fun front hfront => hopen front (hfront.trans (List.prefix_append _ _))
        rw [hopening] at hend
        refine .call ⟨a, w, gap, inner, tail, false, hmask, hname, hblank, by simp, fun _ => ⟨hunclosed, ?_⟩⟩
          rfl rfl ?_ ?_
        · rw [← hend]
          simp only [Text.byteLength_append, Text.byteLength_cons]
          show _ + (_ + (_ + (1 + _))) = _
          omega
        · exact congrArg (Span.mk (byteLength a)) hend.symm
        · exact congrArg (fun stop => splitArguments mask ⟨_, stop⟩) hend.symm
      · exact .call ⟨a, w, gap, inner, ')' :: rest, true, hmask, hname, hblank, fun _ => ⟨hbalanced, rfl⟩, by simp⟩
          rfl rfl rfl rfl

theorem assignmentCandidate_reads {value : Span} (t : AssignmentText mask)
    (hlt : byteLength t.before + byteLength t.name < value.start) :
    Yields (assignmentCandidate line mask ⟨byteLength t.before, byteLength t.before + byteLength t.name⟩ value)
      (·.Reads mask) := by
  refine .after fun stop _ => .after fun text htext => .after fun name hname => .ok ?_
  obtain ⟨w, hw, rfl⟩ := textAt_ok_iff.mp hname
  obtain rfl : w = t.name := Except.ok.inj (hw.symm.trans (cut_ok_iff.mpr ⟨_, _, t.text, rfl, rfl⟩))
  obtain ⟨-, -, -, -, hstop⟩ := cut_ok_iff.mp htext
  exact .assignment t rfl rfl rfl rfl hlt (Nat.le.intro hstop)

theorem statement?_reads : Yields (statement? line mask) fun o => ∀ c, o = some c → c.Reads mask := by
  unfold statement?
  split
  · refine .after fun name _ => .ok fun c hc => ?_
    cases hc
    exact .code (.inl rfl) rfl
  · split
    · refine .after fun name _ => .ok fun c hc => ?_
      cases hc
      exact .code (.inr rfl) rfl
    · split
      · rename_i m hm
        obtain ⟨target, value, -, -, -, htarget, hvalue, -, hlt, -⟩ := assignment_match (find?_matches hm)
        obtain ⟨t, ht⟩ := assignment_text (find?_matches hm)
        cases htarget.symm.trans ht
        rw [htarget, hvalue]
        refine (assignmentCandidate_reads t hlt).bind fun c hc => .ok fun c' hc' => ?_
        cases hc'
        exact hc
      · exact .ok (by simp)

theorem candidates_read {hash : Bool} : Yields (candidates line (maskLine hash line)) fun cs =>
    ∀ c ∈ cs, c.Reads (maskLine hash line).mask := by
  refine statement?_reads.bind fun statement hstatement => ?_
  refine (Yields.mapM fun m hm => callCandidates_reads _ (findAll_matches hm)).bind fun calls hcalls => ?_
  refine (Yields.mapM fun m hm => memberCandidate_reads (findAll_matches hm)).bind fun members hmembers => ?_
  have hstring : ∀ s ∈ (maskLine hash line).strings,
      Yields (stringCandidate line s) (·.Reads (maskLine hash line).mask) :=
    fun s hs => .after fun text _ => .ok (.string rfl (maskLine_strings_text hash line s hs))
  refine (Yields.mapM hstring).bind fun strings hstrings => .ok fun c hc => ?_
  simp only [List.mem_append] at hc
  rcases hc with ((hc | hc) | hc) | hc
  · exact hstatement c (Option.mem_toList.mp hc)
  · obtain ⟨cs, hcs, hc⟩ := List.mem_flatten.mp hc
    exact hcalls cs hcs c hc
  · exact hmembers c hc
  · exact hstrings c hc

end SourceAudit.Outline
