import SourceAudit.Proofs.Outline.Arguments
import SourceAudit.Proofs.Outline.Shape

/-!
# Candidates are spans of the line

* `Candidate.Fits line c` : the span of `c` and those of its operands are spans of `line`;
* `callCandidates_gives`, `memberCandidate_gives`, `stringCandidate_gives` : these never fail, and their candidates fit;
* `statementEnd_gives` : a statement ends with a character that shows, or is empty;
* `assignmentCandidate_gives`, `assignmentCandidate_error` : an assignment fits unless its value starts behind its end;
* `Crossed line mask` : the line is such an assignment;
* `candidates_gives`, `candidates_error` : so the candidates of a line fit, unless the line is crossed.
-/

namespace SourceAudit.Outline

open Regex
open Text (byteLength IsBoundary IsEdge)

variable {line mask : List Char} {s : Span} {m : Match}

def Candidate.Fits (line : List Char) (c : Candidate) : Prop := c.span.LiesIn line ∧ ∀ s ∈ c.operands, s.LiesIn line

/-! ## Texts and names -/

theorem textAt_gives {cs : List Char} (h : s.LiesIn cs) : Gives (textAt cs s) fun _ => True :=
  (cut_gives h).bind fun _ _ => .ok trivial

theorem textAt_ok_iff {cs : List Char} {text : String} :
    textAt cs s = .ok text ↔ ∃ w, cut cs s = .ok w ∧ text = String.ofList w := by
  unfold textAt
  cases cut cs s with
  | error e => simp [bind, Except.bind]
  | ok w => simp [bind, Except.bind, pure, Except.pure, eq_comm]

theorem nameAt?_gives {cs : List Char} {o : Option Span} (h : ∀ s, o = some s → s.LiesIn cs) :
    Gives (nameAt? cs o) fun _ => True := by
  cases o with
  | none => exact .ok trivial
  | some s => exact (textAt_gives (h s rfl)).bind fun _ _ => .ok trivial

/-! ## The code of a line -/

/-- An offset before a character that shows comes before the end of the code, which is then an edge. -/
theorem codeEnd_of_shows {a b : List Char} {c : Char} (h : mask = a ++ c :: b) (hc : Text.isBlank c = false) :
    byteLength a < (codeSpan mask).stop ∧ IsEdge mask (codeSpan mask).stop := by
  have hle := Text.byteLength_le_trimEnd h hc
  have hpos := c.utf8Size_pos
  refine ⟨show byteLength a < byteLength (Text.trimEnd mask) by omega, Text.isEdge_trimEnd fun hn => ?_⟩
  rw [hn, Text.byteLength_nil] at hle
  omega

/-- The code of a line that is not blank starts and ends with characters that show. -/
theorem codeSpan_shows (h : Text.allBlank mask = false) : (codeSpan mask).ShowsIn mask := by
  obtain ⟨lead, hmask, hlead, hfirst⟩ := Text.trimStart_spec mask
  cases hts : Text.trimStart mask with
  | nil =>
    rw [hts, List.append_nil] at hmask
    rw [Text.allBlank, List.all_eq_true.2 (hmask ▸ hlead)] at h
    cases h
  | cons c rest =>
    have hstart : (codeSpan mask).start = byteLength lead := by
      have := congrArg byteLength hmask
      rw [Text.byteLength_append] at this
      show byteLength mask - byteLength (Text.trimStart mask) = byteLength lead
      omega
    have hc := hfirst c rest hts
    rw [hts] at hmask
    obtain ⟨hlt, hedge⟩ := codeEnd_of_shows hmask hc
    refine ⟨hstart ▸ Nat.le_of_lt hlt, ?_, hedge⟩
    exact ⟨lead, c, rest, hmask, Text.ne_space_of_not_blank hc, .inl hstart.symm⟩

/-! ## Expressions -/

theorem identifierCandidate?_gives (hb : Blanked line mask) (h : s.ShowsIn mask) :
    Gives (identifierCandidate? mask s) fun o => ∀ c, o = some c → c.Fits line := by
  refine (cut_gives h.liesIn).bind fun text _ => ?_
  dsimp only
  split
  · refine .ok fun c hc => ?_
    cases hc
    exact ⟨h.liesIn_line hb, nofun⟩
  · exact .ok nofun

theorem callCandidates_gives (hb : Blanked line mask) (declared : Option Nat) (h : Matches callShape mask m) :
    Gives (callCandidates mask declared m) fun cs => ∀ c ∈ cs, c.Fits line := by
  obtain ⟨a, b, callee, hmask, hstop, hcallee, hbefore, hname⟩ := call_match h
  have hedge : IsEdge mask callee.start := hname.isEdge
  have hle := Nat.le_trans hname.start_le_stop hbefore
  have hopening : m.stop - 1 = byteLength a := by omega
  simp only [callCandidates, hcallee, hopening]
  refine (textAt_gives (groupSpan?_liesIn grouped_callShape h hcallee)).bind fun name _ => ?_
  split
  · exact .ok nofun
  · refine (closingParen_gives hmask).bind fun close hclose => ?_
    have hoperands := @splitArguments_shows mask ⟨byteLength a + 1, close.getD (codeSpan mask).stop⟩
    refine (Gives.mapM fun s hs => identifierCandidate?_gives hb (hoperands s hs)).bind fun identifiers hids => ?_
    refine .ok fun c hc => ?_
    rcases List.mem_append.1 hc with hc | hc
    · obtain ⟨o, ho, hc⟩ := List.mem_filterMap.1 hc
      exact hids o ho c hc
    · obtain rfl := List.mem_singleton.1 hc
      refine ⟨Span.ShowsIn.liesIn_line ?_ hb, fun s hs => (hoperands s hs).liesIn_line hb⟩
      -- the call ends behind its closing parenthesis, or with the code of the line
      cases close with
      | none =>
        obtain ⟨hlt, hend⟩ := codeEnd_of_shows hmask (by decide)
        exact ⟨Nat.le_trans hle (Nat.le_of_lt hlt), hedge, hend⟩
      | some n =>
        obtain ⟨hlt, a', b', hmask', rfl⟩ := hclose n rfl
        exact ⟨show callee.start ≤ byteLength a' + 1 by omega, hedge, a', ')', b', hmask', by decide, .inr rfl⟩

theorem memberCandidate_gives (hb : Blanked line mask) (h : Matches memberShape mask m) :
    Gives (memberCandidate mask m) (·.Fits line) := by
  obtain ⟨hstart, hstop, hle⟩ := member_match h
  have hs : Span.ShowsIn ⟨m.start, m.stop⟩ mask := ⟨hle, hstart, hstop⟩
  exact (textAt_gives hs.liesIn).bind fun _ _ => .ok ⟨hs.liesIn_line hb, nofun⟩

theorem stringCandidate_gives (h : s.LiesIn line) : Gives (stringCandidate line s) (·.Fits line) :=
  (cut_gives h).bind fun _ _ => .ok ⟨h, nofun⟩

/-! ## Assignments -/

/-- A statement without the blanks and semicolons at its end is a part of the mask from its start, and ends with a
character that is not blank unless it is empty. -/
theorem statementEnd_gives {stop : Nat} (h : IsBoundary mask stop) :
    Gives (statementEnd mask stop) fun n =>
      ∃ a b, mask = a ++ b ∧ n = byteLength a ∧ ∀ a' c, a = a' ++ [c] → Text.isBlank c = false := by
  have hhead : Span.LiesIn ⟨0, stop⟩ mask := ⟨Nat.zero_le _, Text.isBoundary_zero mask, h⟩
  refine (cut_gives hhead).bind fun head hslice => ?_
  obtain ⟨lead, rest, hmask, hlead, -⟩ := Text.slice?_eq_some_iff.1 hslice
  obtain rfl := Text.byteLength_eq_zero.1 hlead
  obtain ⟨-, -, -, hlast⟩ := Text.dropEndWhile_spec Text.isBlank (Text.dropEndWhile (· == ';') (Text.trimEnd head))
  have hhead : Text.trimEnd (Text.dropEndWhile (· == ';') (Text.trimEnd head)) <+: head :=
    (Text.dropEndWhile_prefix _ _).trans ((Text.dropEndWhile_prefix _ _).trans (Text.dropEndWhile_prefix _ _))
  obtain ⟨b, hb⟩ := hhead.trans ⟨rest, hmask.symm⟩
  exact .ok ⟨_, b, hb.symm, rfl, hlast⟩

theorem not_blank_of_isQuote {c : Char} (h : isQuote c = true) : Text.isBlank c = false := by
  simp only [isQuote, Bool.or_eq_true, beq_iff_eq] at h
  obtain (rfl | rfl) | rfl := h <;> decide

/-- The value of an assignment is a span of the line unless it starts behind the end of its statement. -/
theorem value_liesIn (hb : Blanked line mask) (hc : Cuts false line mask) {a gap b head rest : List Char}
    (hmask : mask = a ++ '=' :: (gap ++ b)) (hgap : ∀ c ∈ gap, Text.isBlank c = true) (hhead : mask = head ++ rest)
    (hlast : ∀ a' c, head = a' ++ [c] → Text.isBlank c = false) (hle : byteLength (a ++ '=' :: gap) ≤ byteLength head) :
    Span.LiesIn ⟨byteLength (a ++ '=' :: gap), byteLength head⟩ line := by
  have hsplit : mask = (a ++ '=' :: gap) ++ b := by rw [hmask, List.append_assoc, List.cons_append]
  obtain ⟨tail, hh, hbt⟩ := Text.split_le (hsplit.symm.trans hhead) hle
  have hne : head ≠ [] := by
    rw [hh]
    simp
  obtain ⟨init, c, hinit⟩ := (List.eq_nil_or_concat head).resolve_left hne
  rw [List.concat_eq_append] at hinit
  have hstop : IsBoundary line (byteLength head) := by
    refine (hb.isEdge ⟨init, c, rest, ?_, Text.ne_space_of_not_blank (hlast init c hinit), .inr ?_⟩).isBoundary
    · rw [hhead, hinit, List.append_assoc, List.singleton_append]
    · rw [hinit, Text.byteLength_append, Text.byteLength_cons, Text.byteLength_nil, Nat.add_zero]
  refine ⟨hle, ?_, hstop⟩
  rcases hc _ b hsplit with hcut | hspaces | ⟨lead, quote, n, hquote, hq⟩ | ⟨hin, -⟩
  · exact hcut
  · -- nothing but spaces follows the start of the value, so the statement ends there
    rcases List.eq_nil_or_concat tail with rfl | ⟨init', x, rfl⟩
    · rw [List.append_nil] at hh
      exact hh ▸ hstop
    · rw [List.concat_eq_append, ← List.append_assoc] at hh
      have hx := hspaces x (by rw [hbt]; simp)
      have := hlast _ x hh
      rw [hx] at this
      exact absurd this (by decide)
  · -- the last character that is not blank would be both the equals sign and a quotation mark
    have hspace : ∀ x ∈ List.replicate n ' ', Text.isBlank x = true := by
      intro x hx
      rw [List.eq_of_mem_replicate hx]
      decide
    obtain rfl := Text.last_not_blank_unique hquote (by decide) (not_blank_of_isQuote hq) hgap hspace
    exact absurd hq (by decide)
  · cases hin

/-- An assignment fits unless its value starts behind the end of its statement. -/
theorem assignmentCandidate_gives (hb : Blanked line mask) (hc : Cuts false line mask)
    (h : Matches assignmentShape mask m) {target value : Span} (ht : groupSpan? m 1 = some target)
    (hv : groupSpan? m 2 = some value) (hn : ∀ stop, statementEnd mask value.stop = .ok stop → value.start ≤ stop) :
    Gives (assignmentCandidate line mask target value) (·.Fits line) := by
  obtain ⟨target', value', a, gap, b, ht', hv', hname, hlt, hmask, hgap, hstart⟩ := assignment_match h
  obtain rfl := Option.some.inj (ht.symm.trans ht')
  obtain rfl := Option.some.inj (hv.symm.trans hv')
  have htarget := groupSpan?_liesIn grouped_assignmentShape h ht
  have hvalue := groupSpan?_liesIn grouped_assignmentShape h hv
  obtain ⟨stop, hok, head, rest, hhead, rfl, hlast⟩ := statementEnd_gives hvalue.2.2
  have hle := hn _ hok
  rw [hstart] at hle
  have hspan : Span.LiesIn ⟨value.start, byteLength head⟩ line :=
    hstart ▸ value_liesIn hb hc hmask hgap hhead hlast hle
  simp only [assignmentCandidate, hok]
  refine (cut_gives hspan).bind fun text _ => ?_
  refine (textAt_gives htarget).bind fun name _ => ?_
  refine .ok ⟨⟨?_, (hb.isEdge hname.isEdge).isBoundary, hspan.2.2⟩, fun s hs => ?_⟩
  · exact Nat.le_trans hname.start_le_stop (Nat.le_trans (Nat.le_of_lt hlt) hspan.1)
  · obtain rfl := List.mem_singleton.1 hs
    exact hspan

/-- An assignment whose value starts behind the end of its statement has no value to cut out. -/
theorem assignmentCandidate_error {target value : Span} {stop : Nat} (hs : statementEnd mask value.stop = .ok stop)
    (hlt : stop < value.start) :
    assignmentCandidate line mask target value = .error (.badSpan ⟨value.start, stop⟩) := by
  have hcut : cut line ⟨value.start, stop⟩ = .error (.badSpan ⟨value.start, stop⟩) := by
    rw [cut, Text.slice?, if_neg (by simpa using hlt)]
  simp only [assignmentCandidate, hs]
  show (cut line ⟨value.start, stop⟩ >>= _) = _
  rw [hcut]
  rfl

/-! ## Lines -/

/-- The line is an assignment whose value starts behind the end of its statement. -/
def Crossed (line mask : List Char) : Prop :=
  functionShape.find? mask = none ∧ importShape.find? line = none ∧
    ∃ m value stop, assignmentShape.find? mask = some m ∧ groupSpan? m 2 = some value ∧
      statementEnd mask value.stop = .ok stop ∧ stop < value.start

theorem importName_liesIn (hm : Matches importShape line m)
    (hs : ((groupSpan? m 1).or (groupSpan? m 2)).or (groupSpan? m 3) = some s) : s.LiesIn line := by
  rcases Option.or_eq_some_iff.1 hs with hs | ⟨-, hs⟩
  · rcases Option.or_eq_some_iff.1 hs with hs | ⟨-, hs⟩
    · exact groupSpan?_liesIn grouped_importShape hm hs
    · exact groupSpan?_liesIn grouped_importShape hm hs
  · exact groupSpan?_liesIn grouped_importShape hm hs

theorem statement?_gives (hb : Blanked line mask) (hc : Cuts false line mask) (hne : Text.allBlank mask = false)
    (hn : ¬Crossed line mask) : Gives (statement? line mask) fun o => ∀ c, o = some c → c.Fits line := by
  have hcode : (codeSpan mask).LiesIn line := (codeSpan_shows hne).liesIn_line hb
  cases hf : functionShape.find? mask with
  | some m =>
    simp only [statement?, hf]
    refine (nameAt?_gives fun s => groupSpan?_liesIn grouped_functionShape (find?_matches hf)).bind fun name _ => ?_
    refine .ok fun c hc => ?_
    cases hc
    exact ⟨hcode, nofun⟩
  | none =>
    cases hi : importShape.find? line with
    | some m =>
      simp only [statement?, hf, hi]
      refine (nameAt?_gives fun s => importName_liesIn (find?_matches hi)).bind fun name _ => ?_
      refine .ok fun c hc => ?_
      cases hc
      exact ⟨hcode, nofun⟩
    | none =>
      cases ha : assignmentShape.find? mask with
      | none =>
        simp only [statement?, hf, hi, ha]
        exact .ok nofun
      | some m =>
        have hm := find?_matches ha
        obtain ⟨target, value, -, -, -, ht, hv, -⟩ := assignment_match hm
        simp only [statement?, hf, hi, ha, ht, hv]
        refine (assignmentCandidate_gives hb hc hm ht hv fun stop hs => ?_).bind fun c hfits => ?_
        · exact Nat.le_of_not_lt fun hlt => hn ⟨hf, hi, m, value, stop, ha, hv, hs, hlt⟩
        · refine .ok fun c' hc' => ?_
          cases hc'
          exact hfits

theorem statement?_error (h : Crossed line mask) :
    ∃ s : Span, statement? line mask = .error (.badSpan s) ∧ s.stop < s.start := by
  obtain ⟨hf, hi, m, value, stop, ha, hv, hs, hlt⟩ := h
  obtain ⟨target, value', -, -, -, ht, -, -⟩ := assignment_match (find?_matches ha)
  refine ⟨⟨value.start, stop⟩, ?_, hlt⟩
  simp only [statement?, hf, hi, ha, ht, hv, assignmentCandidate_error hs hlt]
  rfl

theorem candidates_gives {hash : Bool} (hne : Text.allBlank (maskLine hash line).mask = false)
    (hn : ¬Crossed line (maskLine hash line).mask) :
    Gives (candidates line (maskLine hash line)) fun cs => ∀ c ∈ cs, c.Fits line := by
  have hb := maskLine_blanked hash line
  refine (statement?_gives hb (maskLine_cuts hash line) hne hn).bind fun statement hstatement => ?_
  refine (Gives.mapM fun m hm => callCandidates_gives hb _ (findAll_matches hm)).bind fun calls hcalls => ?_
  refine (Gives.mapM fun m hm => memberCandidate_gives hb (findAll_matches hm)).bind fun members hmembers => ?_
  refine (Gives.mapM fun s hs => stringCandidate_gives (maskLine_strings hash line s hs)).bind fun strings hstrings =>
    ?_
  refine .ok fun c hc => ?_
  simp only [List.mem_append] at hc
  rcases hc with ((hc | hc) | hc) | hc
  · exact hstatement c (Option.mem_toList.1 hc)
  · obtain ⟨cs, hcs, hc⟩ := List.mem_flatten.1 hc
    exact hcalls cs hcs c hc
  · exact hmembers c hc
  · exact hstrings c hc

theorem candidates_error {hash : Bool} (h : Crossed line (maskLine hash line).mask) :
    ∃ s : Span, candidates line (maskLine hash line) = .error (.badSpan s) ∧ s.stop < s.start := by
  obtain ⟨s, hs, hlt⟩ := statement?_error h
  refine ⟨s, ?_, hlt⟩
  simp only [candidates, hs]
  rfl

end SourceAudit.Outline
