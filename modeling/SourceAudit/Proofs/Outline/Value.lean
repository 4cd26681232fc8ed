import SourceAudit.Proofs.Outline.Links
import SourceAudit.Proofs.Outline.Literal

/-!
# Values of assignments

An assignment takes its value from the text of its right-hand side, and is linked to the node in the same place. The two
say the same of strings where a right-hand side that starts like a string is one of the strings of its line, and is not
a single quotation mark.

* `RightHandSide mask s` : what stands behind the first equals sign, without blanks around it and semicolons behind it;
* `Candidate.Valued`, `statement?_spec` : the value of an assignment is that of its right-hand side;
* `candidates_strings` : the strings of a line are its candidates for strings;
* `Candidate.Reads.kind_of_string` : nothing else behind a name has the span of a string;
* `StringValueAgrees tree n` : the value of an assignment is that of the string it is linked to;
* `string_value_agrees_iff` : when this is so.
-/

namespace SourceAudit.Outline

open Regex
open Text (byteLength)

variable {hash : Bool} {line mask : List Char} {rest lines : List (List Char)} {number base : Nat} {tree : SyntaxTree}
  {c : Candidate} {cs : List Candidate} {s : Span}

/-! ## Right-hand sides -/

/-- The right-hand side of an assignment: it starts behind the first equals sign and blanks, and ends before blanks,
semicolons and blanks again at the end of the mask. -/
structure RightHandSide (mask : List Char) (s : Span) : Prop where
  start : ∃ a gap b, mask = a ++ '=' :: (gap ++ b) ∧ '=' ∉ a ∧ (∀ c ∈ gap, Text.isBlank c = true) ∧
    s.start = byteLength (a ++ '=' :: gap)
  stop : s.stop = byteLength (Text.trimEnd (Text.dropEndWhile (· == ';') (Text.trimEnd mask)))

/-- What is assigned goes from behind the first equals sign to the end of the mask. -/
theorem assignment_value {m : Match} (h : Matches assignmentShape mask m) :
    ∃ a gap b, mask = a ++ '=' :: (gap ++ b) ∧ '=' ∉ a ∧ (∀ c ∈ gap, Text.isBlank c = true) ∧
      groupSpan? m 2 = some ⟨byteLength (a ++ '=' :: gap), byteLength mask⟩ := by
  obtain ⟨p, q, rfl, -, ht, rfl⟩ := h
  have hq := ht.text_eq
  obtain ⟨p₁, h₁, p₂, h₂, p₃, h₃, p₄, h₄, p₅, h₅, p₆, h₆, p₇, h₇, p₈, hequals, p₉, hgap, p₁₀, hvalue, hend⟩ := ht
  obtain ⟨hleft, rfl⟩ := takes_startText h₁
  let parts := [blanks, leading (oneOf ["const", "let", "var", "final", "auto"]), group 1 dottedName,
    opt (seqs [word ":", blanks, rep (set (.compl (.single '='))) 1 none false])]
  have hequal : ∀ r ∈ parts, ∀ chars ∈ r.sets, chars.mem '=' = false := by decide +kernel
  have hother {r : Regex} {p q : Cursor} (hr : r ∈ parts) (h : Takes r p q) : Spells (· ≠ '=') p q := by
    refine h.alphabet fun chars hchars c hc => ?_
    rintro rfl
    rw [hequal r hr chars hchars] at hc
    cases hc
  obtain ⟨a, ha, hal, hne⟩ : Spells (· ≠ '=') p₁ p₇ :=
    (hother (by simp [parts]) h₂).trans ((hother (by simp [parts]) h₃).trans ((hother (by simp [parts]) h₄).trans
      ((hother (by simp [parts]) h₅).trans ((hother (by simp [parts]) h₆).trans (hother (by simp [parts]) h₇)))))
  obtain ⟨rest, hrest, rfl⟩ := takes_word '=' rfl hequals
  obtain ⟨gap, hblank, hgr, hgl⟩ := takes_rep_set hgap
  obtain ⟨v, -, hvl, hvr, hvstart, hvstop⟩ := takes_group_lookup hvalue (by decide)
  have htext : p₁.text = a ++ '=' :: (gap ++ p₉.right) := by
    rw [Cursor.text, hleft, List.reverse_nil, List.nil_append, ha, hrest, show rest = gap ++ p₉.right from hgr]
  have hstart : p₉.offset = byteLength (a ++ '=' :: gap) := by
    rw [Cursor.offset, hgl, hal, hleft]
    simp only [Text.byteLength_append, Text.byteLength_reverse, Text.byteLength_cons, Text.byteLength_nil]
    omega
  have hstop : v.offset = byteLength p₁.text := by
    rw [← hq, Cursor.text, hend.2, takes_endText hend, List.append_nil, Text.byteLength_reverse, hvl]
    rfl
  refine ⟨a, gap, p₉.right, htext, fun hm => hne _ hm rfl, hblank, ?_⟩
  rw [← hstart, ← hstop]
  exact groupSpan?_of_lookup ((hend.lookup_eq 4 (by decide)).trans hvstart)
    ((hend.lookup_eq 5 (by decide)).trans hvstop)

theorem statementEnd_all : statementEnd mask (byteLength mask) =
    .ok (byteLength (Text.trimEnd (Text.dropEndWhile (· == ';') (Text.trimEnd mask)))) := by
  have hcut : cut mask ⟨0, byteLength mask⟩ = .ok mask := cut_ok_iff.mpr ⟨[], [], by simp, rfl, by simp⟩
  rw [statementEnd, hcut]
  rfl

theorem RightHandSide.shows (h : RightHandSide mask s) {a b : List Char} (hmask : mask = a ++ b)
    (ha : byteLength a = s.stop) :
    ∀ c, a.getLast? = some c → Text.isBlank c = false := by
  intro c hc
  obtain ⟨front, rfl⟩ := List.getLast?_eq_some_iff.mp hc
  have hprefix : Text.trimEnd (Text.dropEndWhile (· == ';') (Text.trimEnd mask)) <+: mask :=
    ((Text.dropEndWhile_prefix _ _).trans (Text.dropEndWhile_prefix _ _)).trans (Text.dropEndWhile_prefix _ _)
  obtain ⟨tail, htail⟩ := hprefix
  obtain ⟨hfront, -⟩ := Text.split_eq (htail.trans hmask) (h.stop.symm.trans ha.symm)
  obtain ⟨-, -, -, hlast⟩ := Text.dropEndWhile_spec Text.isBlank (Text.dropEndWhile (· == ';') (Text.trimEnd mask))
  exact hlast front c hfront

/-- The value of an assignment is that of the text of its right-hand side, which is its only operand. -/
def Candidate.Valued (line mask : List Char) (c : Candidate) : Prop :=
  ∃ s text, c.operands = [s] ∧ RightHandSide mask s ∧ cut line s = .ok text ∧ c.value = literalValue? (Text.trim text)

theorem assignmentCandidate_valued {target : Span} {a gap b : List Char} (hmask : mask = a ++ '=' :: (gap ++ b))
    (ha : '=' ∉ a) (hgap : ∀ c ∈ gap, Text.isBlank c = true) :
    Yields (assignmentCandidate line mask target ⟨byteLength (a ++ '=' :: gap), byteLength mask⟩)
      (·.Valued line mask) := by
  refine .after fun stop hstop => .after fun text htext => .after fun name _ => .ok ?_
  cases statementEnd_all.symm.trans hstop
  exact ⟨_, text, rfl, ⟨⟨a, gap, b, hmask, ha, hgap, rfl⟩, rfl⟩, htext, rfl⟩

/-- A statement is a function, an import or an assignment, and then it has the value of its right-hand side. -/
theorem statement?_spec : Yields (statement? line mask) fun o => ∀ c, o = some c →
    c.kind.rank = 0 ∧ (c.kind = .assignment → c.Valued line mask) := by
  unfold statement?
  split
  · refine .after fun name _ => .ok fun c hc => ?_
    cases hc
    exact ⟨rfl, NodeKind.noConfusion⟩
  · split
    · refine .after fun name _ => .ok fun c hc => ?_
      cases hc
      exact ⟨rfl, NodeKind.noConfusion⟩
    · split
      · rename_i m hm
        obtain ⟨target, value, -, -, -, htarget, hvalue, -⟩ := assignment_match (find?_matches hm)
        obtain ⟨a, gap, b, hmask, ha, hgap, hvalue'⟩ := assignment_value (find?_matches hm)
        cases hvalue.symm.trans hvalue'
        rw [htarget, hvalue]
        refine .after fun c hc => .ok fun c' hc' => ?_
        cases hc'
        refine ⟨?_, fun _ => assignmentCandidate_valued hmask ha hgap c hc⟩
        rw [assignmentCandidate_kind c hc]
        rfl
      · exact .ok (by simp)

theorem statement?_of_rank {masked : MaskedLine} (h : candidates line masked = .ok cs) (hc : c ∈ cs)
    (hk : c.kind.rank = 0) :
    statement? line masked.mask = .ok (some c) := by
  obtain ⟨statement, others, hstatement, rfl, hothers⟩ := candidates_parts cs h
  rcases List.mem_append.mp hc with hc | hc
  · rw [hstatement, Option.mem_toList.mp hc]
  · rcases hothers c hc with hfollows | ⟨hstring, -⟩
    · have := hfollows.1
      rw [hk] at this
      cases this
    · rw [hstring] at hk
      cases hk

/-! ## Strings -/

theorem identifierCandidate?_kind :
    Yields (identifierCandidate? mask s) fun o => ∀ c, o = some c → c.kind = .identifier := by
  refine .after fun text _ => ?_
  dsimp only
  split
  · refine .ok fun c hc => ?_
    cases hc
    rfl
  · exact .ok (by simp)

theorem callCandidates_kind (declared : Option Nat) (m : Match) :
    Yields (callCandidates mask declared m) fun cs => ∀ c ∈ cs, c.kind ≠ .stringLiteral := by
  unfold callCandidates
  split
  · exact .ok (List.forall_mem_nil _)
  · refine .after fun name _ => ?_
    split
    · exact .ok (List.forall_mem_nil _)
    · refine .after fun close _ => ?_
      refine (Yields.mapM fun s _ => identifierCandidate?_kind).bind fun identifiers hids => .ok fun c hc => ?_
      rcases List.mem_append.mp hc with hc | hc
      · obtain ⟨o, ho, hc⟩ := List.mem_filterMap.mp hc
        rw [hids o ho c hc]
        decide
      · rw [List.mem_singleton.mp hc]
        exact NodeKind.noConfusion

theorem memberCandidate_kind (m : Match) :
    Yields (memberCandidate mask m) (·.kind = .member) := .after fun _ _ => .ok rfl

/-- A string becomes a candidate with what stands between its quotation marks. -/
theorem stringCandidate_spec (s : Span) :
    Yields (stringCandidate line s) fun c => c.kind = .stringLiteral ∧ c.span = s ∧ ∃ text, cut line s = .ok text ∧
    c.value = some (.string (String.ofList (stringContents text))) :=
  .after fun text htext => .ok ⟨rfl, rfl, text, htext, rfl⟩

theorem mapM_yields_all {α β : Type} (f : α → Except BuildError β) (xs : List α) :
    Yields (xs.mapM f) fun ys => ∀ x ∈ xs, ∃ y ∈ ys, f x = .ok y := by
  induction xs with
  | nil => exact .ok (List.forall_mem_nil _)
  | cons a xs ih =>
    rw [List.mapM_cons]
    refine .after fun y hy => ih.bind fun ys hys => .ok (List.forall_mem_cons.mpr ⟨⟨y, List.mem_cons_self, hy⟩, ?_⟩)
    intro x hx
    obtain ⟨z, hz, hfz⟩ := hys x hx
    exact ⟨z, List.mem_cons_of_mem y hz, hfz⟩

theorem candidates_strings : Yields (candidates line (maskLine hash line)) fun cs =>
    (∀ c ∈ cs, c.kind = .stringLiteral → c.span ∈ (maskLine hash line).strings ∧
      ∃ text, cut line c.span = .ok text ∧ c.value = some (.string (String.ofList (stringContents text)))) ∧
    ∀ s ∈ (maskLine hash line).strings, ∃ c ∈ cs, c.kind = .stringLiteral ∧ c.span = s := by
  refine .after fun statement hstatement => ?_
  refine (Yields.mapM fun m _ => callCandidates_kind _ m).bind fun calls hcalls => ?_
  refine (Yields.mapM fun m _ => memberCandidate_kind m).bind fun members hmembers => ?_
  have hfrom : Yields ((maskLine hash line).strings.mapM (stringCandidate line)) fun cs => ∀ c ∈ cs,
      c.span ∈ (maskLine hash line).strings ∧
        ∃ text, cut line c.span = .ok text ∧ c.value = some (.string (String.ofList (stringContents text))) := by
    refine .mapM fun s hs c hc => ?_
    obtain ⟨-, rfl, htext⟩ := stringCandidate_spec s c hc
    exact ⟨hs, htext⟩
  refine .after fun strings hstrings => .ok ⟨fun c hc hk => ?_, fun s hs => ?_⟩
  · simp only [List.mem_append] at hc
    rcases hc with ((hc | hc) | hc) | hc
    · have := (statement?_spec statement hstatement c (Option.mem_toList.mp hc)).1
      rw [hk] at this
      cases this
    · obtain ⟨cs, hcs, hc⟩ := List.mem_flatten.mp hc
      exact absurd hk (hcalls cs hcs c hc)
    · rw [hmembers c hc] at hk
      cases hk
    · exact hfrom strings hstrings c hc
  · obtain ⟨c, hc, hspec⟩ := mapM_yields_all _ _ strings hstrings s hs
    obtain ⟨hk, hspan, -⟩ := stringCandidate_spec s c hspec
    exact ⟨c, List.mem_append_right _ hc, hk, hspan⟩

theorem StringText.exists_quote (h : StringText mask s) :
    ∃ a quote b, mask = a ++ quote :: b ∧ isQuote quote = true ∧ s.start ≤ byteLength a ∧ byteLength a < s.stop := by
  cases h with
  | @closed a b quote hmask hopen hstop =>
    have hquote := hopen.quoted
    obtain ⟨x, letters, k, rfl, hx, -⟩ := hopen.text
    refine ⟨_, quote, b, hmask, hquote, ?_, ?_⟩
    · rw [← hx, Text.byteLength_append]
      exact Nat.le_add_right _ _
    · rw [hstop]
      exact Nat.lt_add_of_pos_right quote.utf8Size_pos
  | @unclosed quote hopen hstop =>
    obtain ⟨⟨x, letters, k, hmask, hx, -⟩, hquote⟩ := hopen
    have hpos := quote.utf8Size_pos
    refine ⟨x ++ letters, quote, List.replicate k ' ', by rw [hmask, List.append_assoc], hquote, ?_, ?_⟩
    · rw [← hx, Text.byteLength_append]
      exact Nat.le_add_right _ _
    · rw [hstop, hmask]
      simp only [Text.byteLength_append, Text.byteLength_cons]
      omega

/-- A call, a member or an identifier does not have the span of a string. -/
theorem Candidate.Reads.kind_of_string (h : c.Reads mask) (hs : StringText mask c.span) (hk : c.kind.rank ≠ 0) :
    c.kind = .stringLiteral := by
  cases h with
  | code hk' =>
    rcases hk' with hk' | hk' <;> exact absurd (by rw [hk']; rfl) hk
  | assignment t hk' => exact absurd (by rw [hk']; rfl) hk
  | call t hk' hname hspan =>
    -- there are no parentheses in a string
    obtain ⟨a, w, b, hmask, hw, hparen, -⟩ := hs.split
    obtain ⟨hopening, hoffset⟩ := t.text_opening
    rw [hspan] at hw
    have hstart : t.span.start = byteLength a := congrArg Span.start hw
    have hstop : t.span.stop = byteLength a + byteLength w := congrArg Span.stop hw
    have hfirst := t.start_lt_opening
    have hlast := t.inside_stop_le
    have hinside : t.opening + 1 ≤ t.inside.stop := Nat.le_add_right _ _
    exact absurd (Text.mem_of_between (hmask.symm.trans hopening) (by omega) (by omega)) hparen
  | @name a w b hk' hmask hw hname hspan =>
    -- there are no quotation marks in a name
    obtain ⟨a', quote, b', hmask', hquote, hle, hlt⟩ := hs.exists_quote
    rw [hspan] at hle hlt
    refine absurd (Text.mem_of_between (hmask.symm.trans hmask') hle hlt) (not_mem_of_isName hw ?_)
    simp [isInert, hquote]
  | string hk' => exact hk'

/-! ## Assignments and their strings -/

def ValueNode (tree : SyntaxTree) (n m : SyntaxNode) : Prop :=
  ∃ i, n.properties.get? "value" = some i ∧ tree.get? i = some m

/-- The value of an assignment is a string exactly if it is linked to a string, and then it is the value of that
string. -/
structure StringValueAgrees (tree : SyntaxTree) (n : SyntaxNode) : Prop where
  linked : (∃ v, n.value = some (.string v)) ↔ ∃ m, ValueNode tree n m ∧ m.kind = "StringLiteral"
  same : ∀ v m, n.value = some (.string v) → ValueNode tree n m → m.value = some (.string v)

theorem nodeSpec_value {scope : Option String} :
    Yields (nodeSpec line rest number scope c) fun n => n.value = c.value :=
  .after fun _ _ => .after fun _ _ => .ok rfl

/-- Spans that end together: the text of the shorter one is the end of the other. -/
theorem suffix_of_cut {t : Span} {v w : List Char} (hs : cut line s = .ok v) (ht : cut line t = .ok w)
    (hstart : t.start ≤ s.start) (hstop : s.stop = t.stop) : v <:+ w := by
  obtain ⟨a, b, hline, ha, hv⟩ := cut_ok_iff.mp hs
  obtain ⟨a', b', hline', ha', hw⟩ := cut_ok_iff.mp ht
  obtain ⟨more, rfl, hrest⟩ := Text.split_le (hline'.symm.trans hline) (by omega)
  rw [← List.append_assoc] at hrest
  rw [Text.byteLength_append] at ha
  obtain ⟨rfl, -⟩ := Text.split_eq hrest (by rw [Text.byteLength_append]; omega)
  exact ⟨more, rfl⟩

section NodesOf

variable {n : SyntaxNode} {done todo : List Candidate}

theorem exists_nodesOf {source : String} {i : Nat} (h : buildTree source hash = .ok tree) (hn : tree.get? i = some n) :
    ∃ base number line cs done c todo, NodesOf hash (Text.lines source.toList) tree base number line cs ∧
      cs = done ++ c :: todo ∧ i = base + done.length := by
  have hlt : i < tree.size := Nat.lt_of_not_le fun hle => by
    rw [(tree.get?_eq_none_iff i).mpr hle] at hn
    cases hn
  obtain ⟨base, number, line, cs, hnodes, hle, hbound⟩ := allOnLines_of_lines h i hlt
  obtain ⟨k, rfl⟩ := Nat.exists_eq_add_of_le hle
  have hk : k < cs.length := Nat.lt_of_add_lt_add_left hbound
  refine ⟨base, number, line, cs, cs.take k, cs[k], cs.drop (k + 1), hnodes, ?_, ?_⟩
  · rw [List.getElem_cons_drop, List.take_append_drop]
  · rw [List.length_take_of_le hk.le]

theorem NodesOf.exists_candidates (h : NodesOf hash lines tree base number line cs) :
    ∃ ds, candidates line (maskLine hash line) = .ok ds ∧ ∀ x, x ∈ cs ↔ x ∈ ds := by
  obtain ⟨ds, hds, rfl⟩ := h.sorted
  exact ⟨ds, hds, fun x => (List.mergeSort_perm ds Candidate.before).mem_iff⟩

theorem NodesOf.value_eq (h : NodesOf hash lines tree base number line cs) (hc : cs = done ++ c :: todo)
    (hk : c.kind = .assignment) (hoperands : c.operands = [s]) (hn : tree.get? (base + done.length) = some n) :
    n.properties.get? "value" = nodeAt? (numbered base cs) s := by
  obtain ⟨m, -, -, -, hget, -, -, hlinks⟩ := h.exists_node hc
  cases hn.symm.trans hget
  rw [hk, targets, hoperands] at hlinks
  rw [show n.properties = _ from congrArg Links.properties hlinks]
  cases hvalue : nodeAt? (numbered base cs) s with
  | none =>
    rw [List.filterMap_cons_none hvalue]
    rfl
  | some v =>
    rw [List.filterMap_cons_some hvalue]
    rfl

theorem nodeAt?_isSome {x : Candidate} (base : Nat) (hx : x ∈ cs) :
    (nodeAt? (numbered base cs) x.span).isSome = true := by
  rw [← map_candidate_numbered base cs] at hx
  obtain ⟨p, hp, rfl⟩ := List.mem_map.mp hx
  rw [nodeAt?, Option.isSome_map, List.find?_isSome]
  exact ⟨p, hp, beq_self_eq_true _⟩

/-- The node in the place of the operand comes from a candidate in this place. -/
theorem NodesOf.valueNode {m : SyntaxNode} (h : NodesOf hash lines tree base number line cs)
    (hc : cs = done ++ c :: todo) (hk : c.kind = .assignment) (hoperands : c.operands = [s])
    (hn : tree.get? (base + done.length) = some n)
    (hm : ValueNode tree n m) : ∃ x ∈ cs, x.span = s ∧ m.kind = x.kind.name ∧ m.value = x.value := by
  obtain ⟨i, hi, hget⟩ := hm
  rw [h.value_eq hc hk hoperands hn] at hi
  obtain ⟨done', x, todo', hx, hspan, rfl⟩ := split_of_nodeAt? hi
  obtain ⟨m', rest, scope, -, hget', hspec, -⟩ := h.exists_node hx
  cases hget.symm.trans hget'
  exact ⟨x, by simp [hx], hspan, (nodeSpec_kind _ hspec).1, nodeSpec_value _ hspec⟩

theorem NodesOf.exists_valueNode {x : Candidate} (h : NodesOf hash lines tree base number line cs)
    (hc : cs = done ++ c :: todo) (hk : c.kind = .assignment) (hoperands : c.operands = [s])
    (hn : tree.get? (base + done.length) = some n) (hx : x ∈ cs) (hspan : x.span = s) : ∃ m, ValueNode tree n m := by
  obtain ⟨i, hi⟩ := Option.isSome_iff_exists.mp (nodeAt?_isSome base hx)
  obtain ⟨done', y, todo', hy, -, rfl⟩ := split_of_nodeAt? hi
  obtain ⟨m, -, -, -, hget, -⟩ := h.exists_node hy
  exact ⟨m, _, (h.value_eq hc hk hoperands hn).trans (hspan ▸ hi), hget⟩

/-- An assignment is linked to a string exactly if its right-hand side is one of the strings of its line. -/
theorem NodesOf.linked_string_iff (h : NodesOf hash lines tree base number line cs) (hc : cs = done ++ c :: todo)
    (hk : c.kind = .assignment) (hoperands : c.operands = [s]) (hn : tree.get? (base + done.length) = some n)
    (hstart : c.span.start < s.start) :
    (∃ m, ValueNode tree n m ∧ m.kind = "StringLiteral") ↔ s ∈ (maskLine hash line).strings := by
  have hreads := h.reads
  obtain ⟨ds, hds, hmem⟩ := h.exists_candidates
  obtain ⟨hfrom, hto⟩ := candidates_strings ds hds
  constructor
  · rintro ⟨m, hm, hstring⟩
    obtain ⟨x, hx, hspan, hkind, -⟩ := h.valueNode hc hk hoperands hn hm
    have hxk : x.kind = .stringLiteral := NodeKind.name_injective (hkind.symm.trans hstring)
    exact hspan ▸ (hfrom x ((hmem x).mp hx) hxk).1
  · intro hs
    obtain ⟨y, hy, -, hyspan⟩ := hto s hs
    obtain ⟨m, hm⟩ := h.exists_valueNode hc hk hoperands hn ((hmem y).mpr hy) hyspan
    obtain ⟨x, hx, hspan, hkind, -⟩ := h.valueNode hc hk hoperands hn hm
    refine ⟨m, hm, ?_⟩
    have hrank : x.kind.rank ≠ 0 := by
      intro hrank
      -- the assignment itself starts before its right-hand side
      have hcrank : c.kind.rank = 0 := by rw [hk]; rfl
      have hsame := statement?_of_rank hds ((hmem x).mp hx) hrank
      rw [statement?_of_rank hds ((hmem c).mp (by simp [hc])) hcrank] at hsame
      cases hsame
      rw [hspan] at hstart
      exact Nat.lt_irrefl _ hstart
    rw [hkind, (hreads x hx).kind_of_string (hspan ▸ maskLine_strings_text hash line s hs) hrank]
    rfl

/-- The string that an assignment is linked to has what stands between its quotation marks for its value. -/
theorem NodesOf.linked_string_value {m : SyntaxNode} {text : List Char}
    (h : NodesOf hash lines tree base number line cs) (hc : cs = done ++ c :: todo) (hk : c.kind = .assignment)
    (hoperands : c.operands = [s])
    (hn : tree.get? (base + done.length) = some n) (htext : cut line s = .ok text) (hm : ValueNode tree n m)
    (hstring : m.kind = "StringLiteral") : m.value = some (.string (String.ofList (stringContents text))) := by
  obtain ⟨x, hx, hspan, hkind, hvalue⟩ := h.valueNode hc hk hoperands hn hm
  obtain ⟨ds, hds, hmem⟩ := h.exists_candidates
  have hxk : x.kind = .stringLiteral := NodeKind.name_injective (hkind.symm.trans hstring)
  obtain ⟨-, text', htext', hvalue'⟩ := (candidates_strings ds hds).1 x ((hmem x).mp hx) hxk
  rw [hspan] at htext'
  cases htext.symm.trans htext'
  rw [hvalue, hvalue']

end NodesOf

theorem ValueNode.unique {n m m' : SyntaxNode} (h : ValueNode tree n m) (h' : ValueNode tree n m') : m = m' := by
  obtain ⟨i, hi, hm⟩ := h
  obtain ⟨i', hi', hm'⟩ := h'
  cases hi.symm.trans hi'
  exact Option.some.inj (hm.symm.trans hm')

/-- A string of a line is told from its text unless it is a single quotation mark. -/
theorem stringValueAgrees_iff {n : SyntaxNode} {text : List Char} {strings : List Span}
    (hvalue : ∀ v, n.value = some (.string v) ↔
      OpensString (Text.trim text) ∧ v = String.ofList (stringContents (Text.trim text)))
    (hlinked : (∃ m, ValueNode tree n m ∧ m.kind = "StringLiteral") ↔ s ∈ strings)
    (hstring : ∀ m, ValueNode tree n m → m.kind = "StringLiteral" →
      m.value = some (.string (String.ofList (stringContents text))))
    (hbody : s ∈ strings → StringBody text) :
    StringValueAgrees tree n ↔
      (OpensString (Text.trim text) → s ∈ strings) ∧ (s ∈ strings → 2 ≤ byteLength text) := by
  have hopens (hs : s ∈ strings) : OpensString (Text.trim text) ↔ 2 ≤ byteLength text := by
    rw [(hbody hs).trim_eq, (hbody hs).opensString_iff]
  have hexists : (∃ v, n.value = some (.string v)) ↔ OpensString (Text.trim text) := by
    simp only [hvalue, exists_and_left, exists_eq, and_true]
  constructor
  · intro hagrees
    refine ⟨fun hopen => hlinked.mp (hagrees.linked.mp (hexists.mpr hopen)), fun hs => ?_⟩
    exact (hopens hs).mp (hexists.mp (hagrees.linked.mpr (hlinked.mpr hs)))
  · rintro ⟨hopen, hlength⟩
    refine ⟨?_, fun v m hv hm => ?_⟩
    · rw [hexists, hlinked]
      exact ⟨hopen, fun hs => (hopens hs).mpr (hlength hs)⟩
    · obtain ⟨hopening, rfl⟩ := (hvalue v).mp hv
      obtain ⟨m', hm', hkind⟩ := hlinked.mpr (hopen hopening)
      cases hm.unique hm'
      rw [hstring m hm hkind, (hbody (hopen hopening)).trim_eq]

/-- **When the value of an assignment is that of a string.** An assignment has a string for its value exactly if its
right-hand side starts like a string, and is linked to a string exactly if its right-hand side is one of the strings
of its line. The two agree exactly if every right-hand side that starts like a string is a string, and is no single
quotation mark. -/
theorem string_value_agrees_iff {source : String} {n : SyntaxNode} {i : Nat} (h : buildTree source hash = .ok tree)
    (hn : tree.get? i = some n) (hk : n.kind = "Assignment") :
    ∃ line s text, (Text.lines source.toList)[n.start.line - 1]? = some line ∧
      RightHandSide (maskLine hash line).mask s ∧ cut line s = .ok text ∧ text <:+ n.text.toList ∧
      (∀ v, n.value = some (.string v) ↔
        OpensString (Text.trim text) ∧ v = String.ofList (stringContents (Text.trim text))) ∧
      ((∃ m, ValueNode tree n m ∧ m.kind = "StringLiteral") ↔ s ∈ (maskLine hash line).strings) ∧
      (∀ m, ValueNode tree n m → m.kind = "StringLiteral" →
        m.value = some (.string (String.ofList (stringContents text)))) ∧
      (StringValueAgrees tree n ↔
        (OpensString (Text.trim text) → s ∈ (maskLine hash line).strings) ∧
          (s ∈ (maskLine hash line).strings → 2 ≤ byteLength text)) := by
  obtain ⟨base, number, line, cs, done, c, todo, hnodes, hc, rfl⟩ := exists_nodesOf h hn
  obtain ⟨m, rest, scope, -, hget, hspec, -⟩ := hnodes.exists_node hc
  cases hn.symm.trans hget
  have hkind : c.kind = .assignment := NodeKind.name_injective ((nodeSpec_kind _ hspec).1.symm.trans hk)
  obtain ⟨ds, hds, hmem⟩ := hnodes.exists_candidates
  have hrank : c.kind.rank = 0 := by rw [hkind]; rfl
  obtain ⟨s, text, hoperands, hrhs, htext, hvalue⟩ :=
    (statement?_spec _ (statement?_of_rank hds ((hmem c).mp (by simp [hc])) hrank) c rfl).2 hkind
  obtain ⟨t, start, -, hspan, hoperands', hlt⟩ := (hnodes.reads c (by simp [hc])).exists_assignmentText hkind
  obtain rfl : s = ⟨start, c.span.stop⟩ := List.singleton_inj.mp (hoperands.symm.trans hoperands')
  have hstart : c.span.start < start := by omega
  have hfunction : c.kind ≠ .functionDeclaration := by
    rw [hkind]
    exact NodeKind.noConfusion
  obtain ⟨w, column, column', hw, -, -, hnode, hplace, -⟩ := nodeSpec_of_line hfunction _ hspec
  have hstring (v : String) : n.value = some (.string v) ↔
      OpensString (Text.trim text) ∧ v = String.ofList (stringContents (Text.trim text)) := by
    rw [show n.value = c.value from nodeSpec_value _ hspec, hvalue]
    exact literalValue?_eq_string_iff
  have hlinked := hnodes.linked_string_iff hc hkind hoperands hn hstart
  have hsame (m : SyntaxNode) := hnodes.linked_string_value (m := m) hc hkind hoperands hn htext
  refine ⟨line, _, text, ?_, hrhs, htext, ?_, hstring, hlinked, hsame, ?_⟩
  · rw [show n.start = _ from hplace]
    exact hnodes.onLine
  · rw [show n.text = _ from hnode, String.toList_ofList]
    exact suffix_of_cut htext hw hstart.le rfl
  · exact stringValueAgrees_iff hstring hlinked hsame fun hs => stringBody_of_mem hs htext fun _ _ => hrhs.shows

def stringOf? : LiteralValue → Option String
  | .string v => some v
  | _ => none

theorem eq_string_of_stringOf? {value : LiteralValue} {v : String} (h : stringOf? value = some v) :
    value = .string v := by
  cases value with
  | string w => exact congrArg LiteralValue.string (Option.some.inj h)
  | _ => cases h

/-- Two strings that are added start like a string, but are none. -/
theorem string_value_agrees_iff_of_sum :
    ∃ tree n, buildTree "x = 'a' + 'b'\n" true = .ok tree ∧ tree.get? 0 = some n ∧ n.kind = "Assignment" ∧
      n.value = some (.string "a' + 'b") ∧ n.properties = {} ∧ ¬StringValueAgrees tree n := by
  have hrun : (buildTree "x = 'a' + 'b'\n" true).toOption.any (fun tree => (tree.get? 0).any fun n =>
      decide (n.kind = "Assignment" ∧ n.value.bind stringOf? = some "a' + 'b" ∧ n.properties = {})) = true := by
    rw [buildTree_line rfl rfl]
    decide +kernel
  obtain ⟨tree, htree, hrun⟩ := exists_tree_of_any hrun
  obtain ⟨n, hn, hrun⟩ := (Option.any_eq_true _ _).mp hrun
  obtain ⟨hkind, hvalue, hproperties⟩ := of_decide_eq_true hrun
  obtain ⟨value, hsome, hvalue⟩ := Option.bind_eq_some_iff.mp hvalue
  rw [eq_string_of_stringOf? hvalue] at hsome
  refine ⟨tree, n, htree, hn, hkind, hsome, hproperties, fun hagrees => ?_⟩
  obtain ⟨line, s, text, -, -, -, -, hopens, hlinked, -, hiff⟩ := string_value_agrees_iff htree hn hkind
  obtain ⟨m, ⟨i, hi, -⟩, -⟩ := hlinked.mpr ((hiff.mp hagrees).1 ((hopens _).mp hsome).1)
  rw [hproperties] at hi
  cases hi

end SourceAudit.Outline
