import SourceAudit.Proofs.Outline.Composition

/-!
# Comments between the lines of a block

A line with a comment has no nodes, but blocks are read off the text as it stands: a comment that is indented too
little ends them, an empty line does not.

* `Continues indent line` : a block goes on behind the line;
* `lt_blockLength_append` : a line belongs to a block if the block goes on behind all lines before it;
* `covers_iff_of_lines` : the lines that a function of a built tree covers;
* `rows_blank` : the rows of a text do not depend on what its comments say, or whether there are any;
* `Emptied` : the trees of a text and of the same text with an empty line in place of a comment;
* `Emptied.covers_iff` : which functions cover which lines in both of them;
* `comment_transparent_iff` : when both trees have the same parents and scopes.
-/

namespace SourceAudit

namespace SyntaxTree

theorem ancestors_congr {t t' : SyntaxTree} (hsize : t'.size = t.size) (h : ∀ i, t'.parent? i = t.parent? i) (i : Nat) :
    t'.ancestors i = t.ancestors i := by
  have hwithin (fuel : Nat) : ∀ i, t'.ancestorsWithin fuel i = t.ancestorsWithin fuel i := by
    induction fuel with
    | zero => exact fun _ => rfl
    | succ fuel ih =>
      intro i
      rw [ancestorsWithin, ancestorsWithin, h i]
      cases t.parent? i with
      | none => rfl
      | some p => exact congrArg (p :: ·) (ih p)
  rw [ancestors, ancestors, hsize, hwithin]

/-- Two trees of one size agree in something if their nodes do, one by one. -/
theorem map_nodes_eq_iff {α : Type} {t t' : SyntaxTree} (hsize : t'.size = t.size) (g : SyntaxNode → α) :
    t'.nodes.toList.map g = t.nodes.toList.map g ↔
      ∀ i n n', t.get? i = some n → t'.get? i = some n' → g n' = g n := by
  constructor
  · intro h i n n' hn hn'
    have hi := congrArg (·[i]?) h
    simp only [List.getElem?_map, Array.getElem?_toList] at hi
    rw [get?] at hn hn'
    rw [hn, hn'] at hi
    exact Option.some.inj hi
  · intro h
    refine List.ext_getElem (by simpa [size] using hsize) fun i hi hi' => ?_
    simp only [List.getElem_map, Array.getElem_toList]
    rw [List.length_map, Array.length_toList] at hi hi'
    exact h i _ _ (Array.getElem?_eq_getElem hi') (Array.getElem?_eq_getElem hi)

end SyntaxTree

namespace Outline

variable {hash : Bool} {line comment : List Char} {rest lines before after : List (List Char)}
  {indent number i j k : Nat} {es es' : List (NodeSpec × Option Nat)} {c : Candidate} {scope : Option String}

/-! ## Blocks -/

/-- A block goes on behind a line that is blank or indented more. -/
def Continues (indent : Nat) (line : List Char) : Prop := Text.trimStart line = [] ∨ indent < indentation line

theorem lt_blockLength_cons :
    i + 1 < blockLength indent (line :: rest) ↔ Continues indent line ∧ i < blockLength indent rest := by
  cases hl : Text.trimStart line with
  | nil =>
    have hcontinues : Continues indent line := .inl hl
    rw [blockLength_blank hl, and_iff_right hcontinues]
    split <;> omega
  | cons c tail =>
    have hiff : Continues indent line ↔ indent < indentation line := by
      rw [Continues, hl]
      simp
    rw [hiff]
    by_cases hi : indent < indentation line
    · rw [blockLength_deeper hl hi, and_iff_right hi]
      omega
    · rw [blockLength_shallow hl hi]
      exact iff_of_false (by split <;> omega) fun h => hi h.1

theorem lt_blockLength_append :
    before.length + 1 + i < blockLength indent (before ++ line :: after) ↔
      (∀ l ∈ before, Continues indent l) ∧ Continues indent line ∧ i < blockLength indent after := by
  induction before with
  | nil =>
    rw [List.nil_append, List.length_nil, Nat.zero_add, Nat.add_comm 1 i, lt_blockLength_cons]
    simp
  | cons l before ih =>
    have hindex : (l :: before).length + 1 + i = before.length + 1 + i + 1 := by
      rw [List.length_cons]
      omega
    rw [hindex, List.cons_append, lt_blockLength_cons, ih, List.forall_mem_cons, and_assoc]

/-- Whether a line belongs to a block does not depend on the lines after it, unless it is blank. -/
theorem lt_blockLength_of_before (hi : before[i]? = some line) (hline : Text.trimStart line ≠ [])
    (after after' : List (List Char)) :
    i < blockLength indent (before ++ after) ↔ i < blockLength indent (before ++ after') := by
  induction before generalizing i with
  | nil => cases hi
  | cons l before ih =>
    rw [List.cons_append, List.cons_append]
    cases i with
    | succ i => rw [lt_blockLength_cons, lt_blockLength_cons, ih hi]
    | zero =>
      cases hi
      obtain ⟨c, tail, hl⟩ := List.exists_cons_of_ne_nil hline
      by_cases hdeeper : indent < indentation line
      · rw [blockLength_deeper hl hdeeper, blockLength_deeper hl hdeeper]
        simp
      · rw [blockLength_shallow hl hdeeper, blockLength_shallow hl hdeeper]

/-! ## What a function covers -/

theorem length_blockLines (line : List Char) (rest : List (List Char)) :
    (blockLines line rest).length = blockLength (indentation line) rest := by
  have hle := blockLengthFrom_le (indentation line) 0 0 rest (Nat.le_refl 0)
  rw [blockLines, List.length_take, blockLength, Nat.min_eq_left (by omega)]

theorem extent_stop_line (hk : c.kind = .functionDeclaration) : Yields (extent line rest number c) fun r =>
    r.2.line = number + blockLength (indentation line) rest := by
  rw [← length_blockLines]
  simp only [extent, hk]
  refine .after fun head _ => ?_
  split
  · exact .ok rfl
  · rename_i hnone
    rw [List.getLast?_eq_none_iff.mp hnone]
    exact .after fun column _ => .ok rfl

/-- A function ends as many lines further down as its block has lines. -/
theorem nodeSpec_stop_line (hk : c.kind = .functionDeclaration) : Yields (nodeSpec line rest number scope c) fun n =>
    ∃ stop, n.stop = some stop ∧ stop.line = number + blockLength (indentation line) rest :=
  .after fun _ _ => (extent_stop_line hk).bind fun _ hr => .ok ⟨_, rfl, hr⟩

theorem MadeFrom.exists_line {n : NodeSpec} (h : MadeFrom hash lines n) :
    1 ≤ n.start.line ∧ ∃ line, lines[n.start.line - 1]? = some line ∧
      Text.allBlank (maskLine hash line).mask = false := by
  obtain ⟨before, line, rest, scope, cs, c, hlines, hcode, -, -, hn⟩ := h
  obtain ⟨⟨column, -, hstart⟩, -⟩ := nodeSpec_yields _ hn
  rw [hstart]
  exact ⟨Nat.le_add_left 1 _, line, getElem?_of_split hlines, hcode⟩

theorem MadeFrom.covers_iff {f : NodeSpec} (h : MadeFrom hash lines f) (hk : f.kind = "FunctionDeclaration") :
    ∃ line, lines[f.start.line - 1]? = some line ∧ ∀ i,
      (f.Covers (f.start.line + 1 + i) ↔ i < blockLength (indentation line) (lines.drop f.start.line)) := by
  obtain ⟨before, line, rest, scope, cs, c, hlines, hcode, -, -, hn⟩ := h
  obtain ⟨⟨column, -, hstart⟩, -⟩ := nodeSpec_yields _ hn
  obtain ⟨stop, hstop, hline⟩ := nodeSpec_stop_line ((kind_eq_function_iff (nodeSpec_kind _ hn).1).mp hk) _ hn
  have hdrop : lines.drop (before.length + 1) = rest := by
    rw [hlines, List.drop_append, List.drop_of_length_le (Nat.le_succ _)]
    simp
  rw [hstart]
  refine ⟨line, getElem?_of_split hlines, fun i => ?_⟩
  dsimp only
  rw [hdrop]
  constructor
  · rintro ⟨-, -, stop', hstop', hle⟩
    cases hstop.symm.trans hstop'
    omega
  · intro hlt
    exact ⟨hk, by rw [hstart]; dsimp only; omega, stop, hstop, by omega⟩

theorem trimStart_ne_nil_of_code (h : Text.allBlank (maskLine hash line).mask = false) : Text.trimStart line ≠ [] := by
  intro hblank
  obtain ⟨d, hd, hshows⟩ : ∃ d ∈ (maskLine hash line).mask, Text.isBlank d = false := by
    simpa [Text.allBlank] using h
  obtain ⟨a, b, hmask⟩ := List.append_of_mem hd
  obtain ⟨a', b', rfl, -, -⟩ := (maskLine_blanked hash line).split_of_ne_space hmask (by rintro rfl; cases hshows)
  have hall := List.dropWhile_eq_nil_iff.mp hblank d (by simp)
  rw [hshows] at hall
  cases hall

/-! ## Rows -/

@[simp] theorem allBlank_mask_nil (hash : Bool) : Text.allBlank (maskLine hash []).mask = true := by
  cases hash <;> rfl

/-- A line without code adds no rows, whatever stands on it. -/
theorem rows_blank {line' : List Char} (h : Text.allBlank (maskLine hash line).mask = true)
    (h' : Text.allBlank (maskLine hash line').mask = true) (base number : Nat) (before after : List (List Char)) :
    rows hash base number (before ++ line' :: after) = rows hash base number (before ++ line :: after) := by
  induction before generalizing base number with
  | nil => simp [rows, rowsAt, h, h']
  | cons l before ih => rw [List.cons_append, List.cons_append, rows, rows, ih]

/-! ## Two texts -/

theorem getElem?_behind (before after : List (List Char)) (line : List Char) (i : Nat) :
    (before ++ line :: after)[before.length + 1 + i]? = after[i]? := by
  rw [List.getElem?_append_right (by omega), show before.length + 1 + i - before.length = i + 1 by omega,
    List.getElem?_cons_succ]

theorem drop_behind (before after : List (List Char)) (line : List Char) (i : Nat) :
    (before ++ line :: after).drop (before.length + 1 + i) = after.drop i := by
  rw [List.drop_append, List.drop_of_length_le (by omega), show before.length + 1 + i - before.length = i + 1 by omega]
  rfl

theorem getElem?_emptied (line line' : List Char) (hne : i ≠ before.length) :
    (before ++ line :: after)[i]? = (before ++ line' :: after)[i]? := by
  by_cases hi : i < before.length
  · rw [List.getElem?_append_left hi, List.getElem?_append_left hi]
  · obtain ⟨m, rfl⟩ : ∃ m, i = before.length + 1 + m := ⟨i - (before.length + 1), by omega⟩
    rw [getElem?_behind, getElem?_behind]

/-- A line with code belongs to the block of a line before it, or not, whether there is a comment between them or an
empty line. Only a comment that is indented too little makes a difference. -/
theorem lt_blockLength_emptied (hline : (before ++ comment :: after)[j + i]? = some line)
    (hcode : Text.trimStart line ≠ []) (hne : j + i ≠ before.length) :
    i < blockLength indent ((before ++ comment :: after).drop j) ↔
      i < blockLength indent ((before ++ [] :: after).drop j) ∧
        (j ≤ before.length → before.length < j + i → Continues indent comment) := by
  by_cases hj : j ≤ before.length
  swap
  · -- the block starts behind the comment
    obtain ⟨m, rfl⟩ : ∃ m, j = before.length + 1 + m := ⟨j - (before.length + 1), by omega⟩
    rw [drop_behind, drop_behind]
    simp [hj]
  rw [List.drop_append_of_le_length hj, List.drop_append_of_le_length hj]
  by_cases hi : j + i < before.length
  · -- the line stands before the comment
    rw [List.getElem?_append_left hi] at hline
    have hmem : (before.drop j)[i]? = some line := by rw [List.getElem?_drop, hline]
    rw [lt_blockLength_of_before hmem hcode _ ([] :: after)]
    exact (and_iff_left fun _ hlt => absurd hlt (by omega)).symm
  · obtain ⟨m, rfl⟩ : ∃ m, i = (before.drop j).length + 1 + m :=
      ⟨i - ((before.drop j).length + 1), by rw [List.length_drop]; omega⟩
    have hblank : Continues indent [] := .inl rfl
    have hbehind : before.length < j + ((before.drop j).length + 1 + m) := by
      rw [List.length_drop]
      omega
    rw [lt_blockLength_append, lt_blockLength_append]
    simp only [hblank, hj, hbehind, true_and, true_implies]
    tauto

/-- The trees of a text and of the same text with an empty line in place of a comment. -/
structure Emptied (hash : Bool) (before : List (List Char)) (comment : List Char) (after : List (List Char))
    (tree tree' : SyntaxTree) : Prop where
  hides : Text.allBlank (maskLine hash comment).mask = true
  built : buildFrom hash .empty [] 1 (before ++ comment :: after) = .ok tree
  emptied : buildFrom hash .empty [] 1 (before ++ [] :: after) = .ok tree'

theorem madeFrom_of_lines {tree : SyntaxTree} {n : SyntaxNode} (h : buildFrom hash .empty [] 1 lines = .ok tree)
    (hi : tree.get? i = some n) : MadeFrom hash lines n.toNodeSpec :=
  buildFrom_madeFrom (List.nil_append _).symm (by simp) tree h _ (List.mem_of_getElem? (entry_of_get? hi))

namespace Emptied

variable {tree tree' : SyntaxTree} {n n' f f' : SyntaxNode} (h : Emptied hash before comment after tree tree')

include h

/-- Both texts have the same rows. -/
theorem described (hi : tree.get? i = some n) : ∃ n', ∃ r : Row, tree'.get? i = some n' ∧
    r.Describes tree.entries n.toNodeSpec n.parent ∧ r.Describes tree'.entries n'.toNodeSpec n'.parent := by
  have hs := surveyed_of_lines h.built
  have hs' := surveyed_of_lines h.emptied
  rw [rows_blank h.hides (allBlank_mask_nil hash)] at hs'
  obtain ⟨r, hr, hdescribes⟩ := hs.described i _ _ (entry_of_get? hi)
  have hlt : i < tree'.entries.length := hs'.length_eq ▸ (List.getElem?_eq_some_iff.mp hr).1
  obtain ⟨n', hn', he⟩ := exists_get?_of_entry (List.getElem?_eq_getElem hlt)
  obtain ⟨r', hr', hdescribes'⟩ := hs'.described i _ _ (entry_of_get? hn')
  cases hr.symm.trans hr'
  exact ⟨n', r, hn', hdescribes, hdescribes'⟩

theorem size_eq : tree'.size = tree.size := by
  have hs := surveyed_of_lines h.built
  have hs' := surveyed_of_lines h.emptied
  rw [rows_blank h.hides (allBlank_mask_nil hash)] at hs'
  rw [← SyntaxTree.length_entries, ← SyntaxTree.length_entries, ← hs.length_eq, hs'.length_eq]

theorem same (hi : tree.get? i = some n) (hi' : tree'.get? i = some n') :
    n'.kind = n.kind ∧ n'.name = n.name ∧ n'.start = n.start := by
  obtain ⟨m, r, hm, hn, hn'⟩ := h.described hi
  cases hi'.symm.trans hm
  obtain ⟨column, hcolumn, hstart⟩ := hn.starts
  obtain ⟨column', hcolumn', hstart'⟩ := hn'.starts
  cases hcolumn.symm.trans hcolumn'
  exact ⟨hn'.kind_eq.trans hn.kind_eq.symm, hn'.name_eq.trans hn.name_eq.symm, hstart'.trans hstart.symm⟩

theorem exists_line (hi : tree.get? i = some n) : 1 ≤ n.start.line ∧ n.start.line ≠ before.length + 1 ∧
    ∃ line, (before ++ comment :: after)[n.start.line - 1]? = some line ∧ Text.trimStart line ≠ [] := by
  obtain ⟨hpos, line, hline, hcode⟩ := (madeFrom_of_lines h.built hi).exists_line
  refine ⟨hpos, fun heq => ?_, line, hline, trimStart_ne_nil_of_code hcode⟩
  rw [heq, Nat.add_sub_cancel, List.getElem?_append_right (Nat.le_refl _), Nat.sub_self,
    List.getElem?_cons_zero] at hline
  cases hline
  rw [h.hides] at hcode
  cases hcode

/-- A function covers a line of the text if it does so with the comment gone, unless the comment ends its block. -/
theorem covers_iff (hf : tree.get? k = some f) (hf' : tree'.get? k = some f') (hk : f.kind = "FunctionDeclaration")
    (hi : tree.get? i = some n) :
    f.Covers n.start.line ↔ f'.Covers n.start.line ∧ (before.length + 1 < n.start.line →
      ∀ line, before[f.start.line - 1]? = some line → Continues (indentation line) comment) := by
  obtain ⟨hkind, -, hstart⟩ := h.same hf hf'
  obtain ⟨l, hl, hcovers⟩ := (madeFrom_of_lines h.built hf).covers_iff hk
  obtain ⟨l', hl', hcovers'⟩ := (madeFrom_of_lines h.emptied hf').covers_iff (hkind.trans hk)
  obtain ⟨hpos, hne, -⟩ := h.exists_line hf
  obtain ⟨-, hne', line, hline, hcode⟩ := h.exists_line hi
  rw [hstart] at hl' hcovers'
  by_cases hlt : f.start.line < n.start.line
  swap
  · exact iff_of_false (fun hc => hlt hc.2.1) fun hc => hlt (hstart ▸ hc.1.2.1)
  obtain ⟨j, hj⟩ : ∃ j, n.start.line = f.start.line + 1 + j := ⟨n.start.line - (f.start.line + 1), by omega⟩
  rw [hj] at hne' hline ⊢
  rw [hcovers, hcovers']
  rw [show f.start.line + 1 + j - 1 = f.start.line + j by omega] at hline
  rw [getElem?_emptied [] comment (by omega)] at hl'
  cases hl.symm.trans hl'
  rw [lt_blockLength_emptied hline hcode (by omega)]
  refine and_congr_right fun _ => ⟨fun hends hlt line hline => ?_, fun hends hle hlt => ?_⟩
  · have hbefore := (List.getElem?_eq_some_iff.mp hline).1
    rw [List.getElem?_append_left hbefore, hline] at hl
    cases hl
    exact hends (by omega) (by omega)
  · rw [List.getElem?_append_left (by omega)] at hl
    exact hends (by omega) l hl

/-- If the same functions cover the line of a node in both trees, it has the same parent and the same scope. -/
theorem parent_scope_eq (hi : tree.get? i = some n) (hi' : tree'.get? i = some n')
    (hcovers : ∀ k f f', tree.get? k = some f → tree'.get? k = some f' →
      (f.Covers n.start.line ↔ f'.Covers n.start.line)) : n'.parent = n.parent ∧ n'.scope = n.scope := by
  obtain ⟨m, r, hm, hn, hn'⟩ := h.described hi
  cases hi'.symm.trans hm
  obtain ⟨o, ho, hscope, hparent⟩ := hn.inScope
  obtain ⟨o', ho', hscope', hparent'⟩ := hn'.inScope
  rw [← hn.start_line] at ho ho'
  have hmoved : Innermost tree'.entries n.start.line o := by
    -- a function of one tree is a function of the other one
    have hback (k : Nat) (e : NodeSpec × Option Nat) (hk : tree'.entries[k]? = some e) (he : e.1.Covers n.start.line) :
        ∃ f, tree.get? k = some f ∧ f.Covers n.start.line := by
      obtain ⟨f', hf', rfl⟩ := exists_get?_of_entry hk
      have hlt : k < tree.size := h.size_eq ▸ (Array.getElem?_eq_some_iff.mp hf').1
      exact ⟨_, Array.getElem?_eq_getElem hlt, (hcovers k _ f' (Array.getElem?_eq_getElem hlt) hf').mpr he⟩
    cases ho with
    | none hnone =>
      refine .none fun e he hc => ?_
      obtain ⟨k, hk⟩ := List.mem_iff_getElem?.mp he
      obtain ⟨f, hf, hc'⟩ := hback k e hk hc
      exact hnone _ (List.mem_of_getElem? (entry_of_get? hf)) hc'
    | some hk hc hname hlast =>
      obtain ⟨f, hf, hfe⟩ := exists_get?_of_entry hk
      cases hfe
      obtain ⟨f', -, hf', -⟩ := h.described hf
      refine .some (entry_of_get? hf') ((hcovers _ f f' hf hf').mp hc) ((h.same hf hf').2.1.trans hname)
        fun j e hj hc' => ?_
      obtain ⟨g, hg, hgc⟩ := hback j e hj hc'
      exact hlast j _ (entry_of_get? hg) hgc
  obtain rfl := hmoved.unique ho'
  exact ⟨hparent'.trans hparent.symm, hscope'.trans hscope.symm⟩

/-- The trees have the same parents and scopes unless the comment ends the block of a function that goes on behind it.
-/
theorem parents_iff :
    (∀ i n n', tree.get? i = some n → tree'.get? i = some n' → (n'.parent, n'.scope) = (n.parent, n.scope)) ↔
      Text.trimStart comment = [] ∨ ∀ f ∈ tree'.nodes, ∀ n ∈ tree'.nodes, f.Covers n.start.line →
        before.length + 1 < n.start.line → ∀ line, before[f.start.line - 1]? = some line →
        indentation line < indentation comment := by
  have hback {k : Nat} {f' : SyntaxNode} (hf' : tree'.get? k = some f') : ∃ f, tree.get? k = some f := by
    have hlt : k < tree.size := h.size_eq ▸ (Array.getElem?_eq_some_iff.mp hf').1
    exact ⟨_, Array.getElem?_eq_getElem hlt⟩
  constructor
  · intro hsame
    refine or_iff_not_imp_left.mpr fun hne f' hf' n' hn' hcovers' hlt line hline => ?_
    obtain ⟨k, hf'⟩ := Array.mem_iff_getElem?.mp hf'
    obtain ⟨i, hn'⟩ := Array.mem_iff_getElem?.mp hn'
    obtain ⟨f, hf⟩ := hback hf'
    obtain ⟨n, hn⟩ := hback hn'
    obtain ⟨hfk, -, hfs⟩ := h.same hf hf'
    obtain ⟨-, -, hns⟩ := h.same hn hn'
    -- the function is above the node in one tree, so also in the other
    have hparent (i : Nat) : tree'.parent? i = tree.parent? i := by
      cases hi : tree.get? i with
      | none =>
        have hi' : tree'.get? i = none := by rwa [SyntaxTree.get?_eq_none_iff, h.size_eq, ← SyntaxTree.get?_eq_none_iff]
        rw [SyntaxTree.parent?, SyntaxTree.parent?, hi, hi']
      | some m =>
        obtain ⟨m', -, hi', -⟩ := h.described hi
        rw [parent?_of_get? hi, parent?_of_get? hi']
        exact congrArg Prod.fst (hsame i m m' hi hi')
    have habove := (mem_ancestors_iff_covers (surveyed_of_lines h.emptied) (linked_of_lines h.emptied)
      hn' hf' hcovers'.1 hcovers'.2.1).mpr hcovers'
    rw [SyntaxTree.ancestors_congr h.size_eq hparent] at habove
    rw [hns] at hcovers' hlt
    rw [hfs] at hline
    have hcovers := (mem_ancestors_iff_covers (surveyed_of_lines h.built) (linked_of_lines h.built) hn hf
      (hfk.symm.trans hcovers'.1) (hfs ▸ hcovers'.2.1)).mp habove
    exact (((h.covers_iff hf hf' hcovers.1 hn).mp hcovers).2 hlt line hline).resolve_left hne
  · intro hindent i n n' hi hi'
    obtain ⟨-, -, hns⟩ := h.same hi hi'
    obtain ⟨hparent, hscope⟩ := h.parent_scope_eq hi hi' fun k f f' hf hf' => by
      obtain ⟨hfk, -, hfs⟩ := h.same hf hf'
      by_cases hk : f.kind = "FunctionDeclaration"
      swap
      · exact iff_of_false (fun hc => hk hc.1) fun hc => hk (hfk.symm.trans hc.1)
      refine (h.covers_iff hf hf' hk hi).trans (and_iff_left_of_imp fun hcovers hlt line hline => ?_)
      refine hindent.imp_right fun hindent => ?_
      exact hindent f' (Array.mem_of_getElem? hf') n' (Array.mem_of_getElem? hi') (hns ▸ hcovers) (hns ▸ hlt) line
        (hfs ▸ hline)
    rw [hparent, hscope]

end Emptied

theorem exists_emptied {tree : SyntaxTree} (hcomment : Text.allBlank (maskLine hash comment).mask = true)
    (h : buildFrom hash .empty [] 1 (before ++ comment :: after) = .ok tree) :
    ∃ tree', Emptied hash before comment after tree tree' := by
  have hworks : ∀ line ∈ before ++ comment :: after, ¬Breaks hash line := by
    intro line hline hbreaks
    obtain ⟨s, hs, -⟩ := buildFrom_error ⟨line, hline, hbreaks⟩ .empty [] 1
    cases h.symm.trans hs
  have hemptied : ∀ line ∈ before ++ [] :: after, ¬Breaks hash line := by
    intro line hline
    rcases List.mem_append.mp hline with hline | hline
    · exact hworks line (List.mem_append_left _ hline)
    · rcases List.mem_cons.mp hline with rfl | hline
      · rintro ⟨hcode, -⟩
        rw [allBlank_mask_nil] at hcode
        cases hcode
      · exact hworks line (List.mem_append_right _ (List.mem_cons_of_mem _ hline))
  obtain ⟨tree', h', -⟩ := buildFrom_gives hemptied .empty [] 1
  exact ⟨tree', hcomment, h, h'⟩

theorem buildFrom_empty_end (lines : List (List Char)) :
    buildFrom hash .empty [] 1 (lines ++ [[]]) = buildFrom hash .empty [] 1 lines := by
  have hlast (t : SyntaxTree) : buildFrom hash t [] (lines.length + 1) [[]] = .ok t := by
    rw [buildFrom, allBlank_mask_nil]
    rfl
  rw [buildFrom_append (by decide) surveyed_empty (stacked_empty _)]
  simp only [hlast]
  exact bind_pure _

/-- **A comment gives way to an empty line.** The nodes stay, with their kinds, names and places. Their parents and
scopes stay the same exactly if the comment is indented more than every function whose block has code on both sides of
it. -/
theorem comment_transparent_iff (source source' : String) (hash : Bool) (before after : List (List Char))
    (comment : List Char) (hlines : Text.lines source.toList = before ++ comment :: after)
    (hlines' : Text.lines source'.toList = before ++ [] :: after ∨ after = [] ∧ Text.lines source'.toList = before)
    (hcomment : Text.allBlank (maskLine hash comment).mask = true) (tree : SyntaxTree)
    (h : buildTree source hash = .ok tree) :
    ∃ tree', buildTree source' hash = .ok tree' ∧
      tree'.nodes.toList.map (fun n => (n.kind, n.name, n.start)) =
        tree.nodes.toList.map (fun n => (n.kind, n.name, n.start)) ∧
      (tree'.nodes.toList.map (fun n => (n.parent, n.scope)) = tree.nodes.toList.map (fun n => (n.parent, n.scope)) ↔
        Text.trimStart comment = [] ∨ ∀ f ∈ tree'.nodes, ∀ n ∈ tree'.nodes, f.Covers n.start.line →
          before.length + 1 < n.start.line → ∀ line, before[f.start.line - 1]? = some line →
          indentation line < indentation comment) := by
  rw [buildTree, hlines] at h
  obtain ⟨tree', hemptied⟩ := exists_emptied hcomment h
  refine ⟨tree', ?_, ?_, ?_⟩
  · rw [buildTree]
    rcases hlines' with hlines' | ⟨rfl, hlines'⟩
    · rw [hlines', hemptied.emptied]
    · rw [hlines', ← buildFrom_empty_end, hemptied.emptied]
  · refine (SyntaxTree.map_nodes_eq_iff hemptied.size_eq _).mpr fun i n n' hi hi' => ?_
    obtain ⟨hkind, hname, hstart⟩ := hemptied.same hi hi'
    rw [hkind, hname, hstart]
  · rw [SyntaxTree.map_nodes_eq_iff hemptied.size_eq]
    exact hemptied.parents_iff

/-- A comment at the margin ends the block of the function around it, where an empty line does not. -/
theorem comment_transparent_iff_at_margin :
    ∃ tree tree', buildTree "def f():\n    a()\n# note\n    b()\n" true = .ok tree ∧
      buildTree "def f():\n    a()\n\n    b()\n" true = .ok tree' ∧
      tree'.nodes.toList.map (fun n => (n.kind, n.name, n.start)) =
        tree.nodes.toList.map (fun n => (n.kind, n.name, n.start)) ∧
      tree'.nodes.toList.map (fun n => (n.parent, n.scope)) ≠ tree.nodes.toList.map (fun n => (n.parent, n.scope)) := by
  obtain ⟨tree, htree⟩ := exists_tree_of_no_equals "def f():\n    a()\n# note\n    b()\n" true (by decide +kernel)
  obtain ⟨tree', htree', hheads, hiff⟩ := comment_transparent_iff "def f():\n    a()\n# note\n    b()\n"
    "def f():\n    a()\n\n    b()\n" true ["def f():".toList, "    a()".toList] ["    b()".toList] "# note".toList
    (by decide) (.inl (by decide)) (by decide) tree htree
  have hrun : (buildTree "def f():\n    a()\n\n    b()\n" true).toOption.any (fun tree =>
      (tree.get? 0).any fun f => (tree.get? 2).any fun n =>
        decide (f.Covers n.start.line ∧ 3 < n.start.line ∧ f.start.line = 1)) = true := by
    decide +kernel
  obtain ⟨t, ht, hrun⟩ := exists_tree_of_any hrun
  cases htree'.symm.trans ht
  obtain ⟨f, hf, hrun⟩ := (Option.any_eq_true _ _).mp hrun
  obtain ⟨n, hn, hrun⟩ := (Option.any_eq_true _ _).mp hrun
  obtain ⟨hcovers, hbehind, hfirst⟩ := of_decide_eq_true hrun
  refine ⟨tree, tree', htree, htree', hheads, fun hsame => ?_⟩
  rcases hiff.mp hsame with hblank | hindent
  · exact absurd hblank (by decide)
  · have := hindent f (Array.mem_of_getElem? hf) n (Array.mem_of_getElem? hn) hcovers hbehind "def f():".toList
      (by rw [hfirst]; rfl)
    exact absurd this (by decide)

end Outline

end SourceAudit
