import Mathlib.Data.List.ModifyLast
import SourceAudit.Proofs.Outline.Name
import SourceAudit.Proofs.Outline.Origin

/-!
# Texts and spans of nodes

A node has a text, and a span from its start to its end. Columns count the characters of a line, spans of candidates its
bytes.

* `spannedText lines start stop` : the text from `start` to `stop`;
* `extract_of_cut` : a part that is cut out by bytes, by columns;
* `nodeSpec_of_line`, `nodeSpec_of_function` : the text and the end of a node;
* `node_text_is_span` : a node that is no function ends on its line, its text is its span, and it starts with its name;
* `function_text_is_span_iff` : the text of a function is its span unless it ends on its line before the line does.
-/

namespace SourceAudit.Outline

open Text (byteLength)

variable {line w : List Char} {rest : List (List Char)} {number : Nat} {c : Candidate} {scope : Option String}

/-- The text from one location up to another, lines joined by line feeds. -/
def spannedText (lines : List (List Char)) (start stop : Location) : String :=
  let block := (lines.extract (start.line - 1) stop.line).modifyLast (·.take (stop.column - 1))
  Text.joinLines ((block.modifyHead (·.drop (start.column - 1))).map String.ofList)

/-! ## Columns -/

theorem columnOf_pos {n column : Nat} (h : columnOf line n = .ok column) : 1 ≤ column := by
  obtain ⟨a, b, -, -, rfl⟩ := columnOf_ok_iff.mp h
  exact Nat.le_add_left 1 _

theorem extract_of_cut {s : Span} {column column' : Nat} (hcut : cut line s = .ok w)
    (hstart : columnOf line s.start = .ok column) (hstop : columnOf line s.stop = .ok column') :
    column ≤ column' ∧ column' ≤ line.length + 1 ∧ w = line.extract (column - 1) (column' - 1) := by
  obtain ⟨a, b, hline, ha, hw⟩ := cut_ok_iff.mp hcut
  obtain ⟨a', b', hline', ha', rfl⟩ := columnOf_ok_iff.mp hstart
  obtain ⟨a'', b'', hline'', ha'', rfl⟩ := columnOf_ok_iff.mp hstop
  obtain ⟨rfl, -⟩ := Text.split_eq (hline'.symm.trans hline) (ha'.trans ha.symm)
  rw [← List.append_assoc] at hline
  obtain ⟨rfl, -⟩ := Text.split_eq (hline''.symm.trans hline) (by rw [Text.byteLength_append, ha'', ha, hw])
  refine ⟨?_, ?_, ?_⟩
  · rw [List.length_append]
    omega
  · rw [hline]
    simp only [List.length_append]
    omega
  · rw [hline]
    simp

theorem drop_eq_extract_append {m n : Nat} (h : m ≤ n) : line.drop m = line.extract m n ++ line.drop n := by
  have hdrop : line.drop n = (line.drop m).drop (n - m) := by
    rw [List.drop_drop, Nat.add_sub_cancel' h]
  rw [List.extract_eq_take_drop, hdrop, List.take_append_drop]

theorem drop_of_cut {n column : Nat} (hcut : cut line ⟨n, byteLength line⟩ = .ok w)
    (hstart : columnOf line n = .ok column) :
    w = line.drop (column - 1) := by
  have hstop : columnOf line (byteLength line) = .ok (line.length + 1) :=
    columnOf_ok_iff.mpr ⟨line, [], (List.append_nil line).symm, rfl, rfl⟩
  obtain ⟨-, -, rfl⟩ := extract_of_cut hcut hstart hstop
  rw [List.extract_eq_take_drop, Nat.add_sub_cancel, ← List.length_drop, List.take_length]

/-! ## One node -/

theorem nodeSpec_kind : Yields (nodeSpec line rest number scope c) fun n => n.kind = c.kind.name ∧ n.name = c.name :=
  .after fun _ _ => .after fun _ _ => .ok ⟨rfl, rfl⟩

theorem nodeSpec_of_line (hk : c.kind ≠ .functionDeclaration) : Yields (nodeSpec line rest number scope c) fun n =>
    ∃ w column column', cut line c.span = .ok w ∧ columnOf line c.span.start = .ok column ∧
      columnOf line c.span.stop = .ok column' ∧ n.text = String.ofList w ∧ n.start = ⟨number, column⟩ ∧
      n.stop = some ⟨number, column'⟩ := by
  refine .after fun column hcolumn => extent_cases.bind fun r hr => ?_
  obtain ⟨-, w, column', hw, hcolumn', rfl⟩ | ⟨hfunction, -⟩ := hr
  · exact .ok ⟨w, column, column', hw, hcolumn, hcolumn', rfl, rfl, rfl⟩
  · exact absurd hfunction hk

theorem nodeSpec_of_function (hk : c.kind = .functionDeclaration) : Yields (nodeSpec line rest number scope c) fun n =>
    ∃ head column, cut line ⟨c.span.start, byteLength line⟩ = .ok head ∧ columnOf line c.span.start = .ok column ∧
      n.start = ⟨number, column⟩ ∧
      ((∃ column', columnOf line c.span.stop = .ok column' ∧ n.text = String.ofList head ∧
        n.stop = some ⟨number, column'⟩) ∨
      ∃ front last, blockLines line rest = front ++ [last] ∧
        n.text = Text.joinLines ((head :: (front ++ [last])).map String.ofList) ∧
        n.stop = some ⟨number + (front.length + 1), last.length + 1⟩) := by
  refine .after fun column hcolumn => extent_cases.bind fun r hr => ?_
  obtain ⟨hother, -⟩ | ⟨-, head, hhead, ⟨column', hcolumn', rfl⟩ | ⟨front, last, hblock, rfl⟩⟩ := hr
  · exact absurd hk hother
  · exact .ok ⟨head, column, hhead, hcolumn, rfl, .inl ⟨column', hcolumn', rfl, rfl⟩⟩
  · exact .ok ⟨head, column, hhead, hcolumn, rfl, .inr ⟨front, last, hblock, rfl, rfl⟩⟩

theorem span_of_function {hash : Bool} {cs : List Candidate} (h : candidates line (maskLine hash line) = .ok cs)
    (hc : c ∈ cs) (hk : c.kind = .functionDeclaration) : c.span = codeSpan (maskLine hash line).mask := by
  obtain ⟨m, hm⟩ := find?_of_function h hc hk
  obtain ⟨f, others, rfl, -, hspan, hothers⟩ := candidates_function hm h
  rcases List.mem_cons.mp hc with rfl | hc
  · exact hspan
  · exact absurd hk (hothers c hc).not_function

/-! ## Spanned texts -/

theorem spannedText_line (before : List (List Char)) (line : List Char) (rest : List (List Char))
    (column column' : Nat) :
    spannedText (before ++ line :: rest) ⟨before.length + 1, column⟩ ⟨before.length + 1, column'⟩ =
      String.ofList (line.extract (column - 1) (column' - 1)) := by
  have hblock : (before ++ line :: rest).extract before.length (before.length + 1) = [] ++ [line] := by
    simp
  rw [spannedText]
  dsimp only
  rw [Nat.add_sub_cancel, hblock, List.modifyLast_concat]
  simp [Text.joinLines, List.drop_take]

theorem spannedText_block (before front after : List (List Char)) (line last : List Char) (column : Nat) :
    spannedText (before ++ line :: (front ++ last :: after)) ⟨before.length + 1, column⟩
        ⟨before.length + 1 + (front.length + 1), last.length + 1⟩ =
      Text.joinLines ((line.drop (column - 1) :: (front ++ [last])).map String.ofList) := by
  have hblock : (before ++ line :: (front ++ last :: after)).extract before.length
      (before.length + 1 + (front.length + 1)) = line :: front ++ [last] := by
    have hlines : before ++ line :: (front ++ last :: after) = before ++ ((line :: front ++ [last]) ++ after) := by simp
    have hcount : before.length + 1 + (front.length + 1) = before.length + (line :: front ++ [last]).length := by
      simp only [List.length_append, List.length_cons, List.length_nil]
      omega
    rw [hlines, hcount, List.extract_eq_take_drop, Nat.add_sub_cancel_left, List.drop_left, List.take_left]
  rw [spannedText]
  simp only [Nat.add_sub_cancel, hblock, List.modifyLast_concat, List.take_length]
  rfl

/-! ## Nodes of a tree -/

section Nodes

variable {source : String} {hash : Bool} {tree : SyntaxTree} {node : SyntaxNode}

theorem getElem?_of_split {lines before : List (List Char)} (h : lines = before ++ line :: rest) :
    lines[before.length + 1 - 1]? = some line := by
  rw [h, Nat.add_sub_cancel, List.getElem?_append_right (Nat.le_refl _), Nat.sub_self, List.getElem?_cons_zero]

theorem isNamed_of_name {k : NodeKind} (h : k.name = "CallExpression" ∨ k.name = "Assignment") : k.isNamed = true := by
  revert h
  cases k <;> decide

theorem isNamed_of_wholeName {k : NodeKind} (h : k.name = "MemberExpression" ∨ k.name = "Identifier") :
    k.isNamed = true ∧ (k = .member ∨ k = .identifier) := by
  revert h
  cases k <;> decide

theorem exists_node_of_head? {α : Type} {f : SyntaxNode → α} {y : α}
    (h : ((buildTree source hash).toOption.bind fun t => t.nodes.toList.head?).map f = some y) :
    ∃ tree node, buildTree source hash = .ok tree ∧ node ∈ tree.nodes ∧ f node = y := by
  obtain ⟨node, hnode, hy⟩ := Option.map_eq_some_iff.mp h
  obtain ⟨tree, htree, hnode⟩ := Option.bind_eq_some_iff.mp hnode
  refine ⟨tree, node, ?_, Array.mem_toList_iff.mp (List.mem_of_head? hnode), hy⟩
  cases hbuild : buildTree source hash with
  | error e =>
    rw [hbuild] at htree
    cases htree
  | ok t =>
    rw [hbuild] at htree
    cases htree
    rfl

/-- **The text of a node is its span.** A node that is no function ends on the line it starts on, and its text is what
stands there from its start up to its end. Calls and assignments start with their names; members and identifiers are
their names. -/
theorem node_text_is_span (h : buildTree source hash = .ok tree) (hnode : node ∈ tree.nodes)
    (hkind : node.kind ≠ "FunctionDeclaration") :
    node.start.Within (Text.lines source.toList).length ∧
    ∃ line endColumn, (Text.lines source.toList)[node.start.line - 1]? = some line ∧
      node.stop = some ⟨node.start.line, endColumn⟩ ∧ node.start.column ≤ endColumn ∧ endColumn ≤ line.length + 1 ∧
      node.text.toList = line.extract (node.start.column - 1) (endColumn - 1) ∧
      (node.kind = "CallExpression" ∨ node.kind = "Assignment" →
        ∃ name, node.name = some name ∧ name.toList <+: node.text.toList) ∧
      (node.kind = "MemberExpression" ∨ node.kind = "Identifier" → node.name = some node.text) := by
  refine ⟨start_within_of_buildTree h hnode, ?_⟩
  obtain ⟨before, line, rest, scope, cs, c, hlines, -, hcs, hc, hn⟩ := madeFrom_of_buildTree h hnode
  obtain ⟨hk, hname⟩ : node.kind = c.kind.name ∧ node.name = c.name := nodeSpec_kind _ hn
  have hcandidate : c.kind ≠ .functionDeclaration := by
    intro hfunction
    rw [hk, hfunction] at hkind
    exact hkind rfl
  obtain ⟨w, column, column', hw, hcolumn, hcolumn', htext, hstart, hstop⟩ := nodeSpec_of_line hcandidate _ hn
  obtain ⟨hle, hend, hextract⟩ := extract_of_cut hw hcolumn hcolumn'
  have hnamed (hk : c.kind.isNamed = true) : ∃ v, node.name = some (String.ofList v) ∧ v <+: w ∧
      (c.kind = .member ∨ c.kind = .identifier → v = w) := by
    obtain ⟨a, b, hab, ha, -⟩ := columnOf_ok_iff.mp hcolumn
    rw [hname]
    exact ((candidates_named cs hcs c hc hk).unmask (maskLine_blanked hash line) ⟨a, b, hab, ha⟩).exists_front hw
  rw [show node.start = _ from hstart, show node.stop = _ from hstop, show node.text = _ from htext, hk,
    String.toList_ofList]
  refine ⟨line, column', getElem?_of_split hlines, rfl, hle, hend, hextract, fun hcall => ?_, fun hmember => ?_⟩
  · obtain ⟨v, hv, hprefix, -⟩ := hnamed (isNamed_of_name hcall)
    exact ⟨_, hv, by rwa [String.toList_ofList]⟩
  · obtain ⟨hk, hwhole⟩ := isNamed_of_wholeName hmember
    obtain ⟨v, hv, -, heq⟩ := hnamed hk
    rw [hv, heq hwhole]

/-- A call that is not closed, behind a character of two bytes. -/
theorem node_text_is_span_of_call :
    ∃ tree node, buildTree "éf(  # ü" true = .ok tree ∧ node ∈ tree.nodes ∧ node.kind = "CallExpression" ∧
      node.start = ⟨1, 2⟩ ∧ node.stop = some ⟨1, 4⟩ ∧ node.text.toList = "éf(  # ü".toList.extract 1 3 ∧
      ∃ name, node.name = some name ∧ name.toList <+: node.text.toList := by
  have hfirst : (((buildTree "éf(  # ü" true).toOption.bind fun t => t.nodes.toList.head?).map
      fun n => (n.kind, n.start, n.stop)) = some ("CallExpression", ⟨1, 2⟩, some ⟨1, 4⟩) := by decide +kernel
  obtain ⟨tree, node, htree, hnode, hfacts⟩ := exists_node_of_head? hfirst
  obtain ⟨hkind, hplace⟩ := Prod.mk.inj hfacts
  obtain ⟨hstart, hstop⟩ := Prod.mk.inj hplace
  obtain ⟨-, line, endColumn, hline, hend, -, -, htext, hcall, -⟩ :=
    node_text_is_span htree hnode (by rw [hkind]; decide)
  rw [hstart] at hline hend htext
  cases hstop.symm.trans hend
  obtain rfl : "éf(  # ü".toList = line := Option.some.inj hline
  exact ⟨tree, node, htree, hnode, hkind, hstart, hstop, htext, hcall (.inl hkind)⟩

/-- **The text of a function is its span, unless it ends on its line before the line does.** A function that ends on
its line ends with the code there, and its text goes on to the end of the line, with the blanks and the comment behind
the code. -/
theorem function_text_is_span_iff (h : buildTree source hash = .ok tree) (hnode : node ∈ tree.nodes)
    (hkind : node.kind = "FunctionDeclaration") :
    ∃ line stop, (Text.lines source.toList)[node.start.line - 1]? = some line ∧ node.stop = some stop ∧
      (stop.line = node.start.line → columnOf line (codeSpan (maskLine hash line).mask).stop = .ok stop.column ∧
        node.text = spannedText (Text.lines source.toList) node.start stop ++
          String.ofList (line.drop (stop.column - 1))) ∧
      (node.text = spannedText (Text.lines source.toList) node.start stop ↔
        (stop.line = node.start.line → stop.column = line.length + 1)) := by
  obtain ⟨before, line, rest, scope, cs, c, hlines, hne, hcs, hc, hn⟩ := madeFrom_of_buildTree h hnode
  obtain ⟨hk, -⟩ : node.kind = c.kind.name ∧ node.name = c.name := nodeSpec_kind _ hn
  have hfunction : c.kind = .functionDeclaration :=
    NodeKind.name_injective (show c.kind.name = NodeKind.functionDeclaration.name from hk.symm.trans hkind)
  obtain ⟨head, column, hhead, hcolumn, hstart, hextent⟩ := nodeSpec_of_function hfunction _ hn
  have hspan := span_of_function hcs hc hfunction
  obtain rfl : head = line.drop (column - 1) := drop_of_cut hhead hcolumn
  rw [show node.start = _ from hstart, hlines]
  rcases hextent with ⟨column', hcolumn', htext, hstop⟩ | ⟨front, last, hblock, htext, hstop⟩
  · have hle : column ≤ column' := columnOf_mono hcolumn hcolumn' (hspan ▸ (codeSpan_shows hne).1)
    have hpos := columnOf_pos hcolumn'
    have hend := columnOf_le hcolumn'
    have hsplit : line.drop (column - 1) = line.extract (column - 1) (column' - 1) ++ line.drop (column' - 1) :=
      drop_eq_extract_append (Nat.sub_le_sub_right hle 1)
    refine ⟨line, _, getElem?_of_split rfl, hstop, fun _ => ⟨hspan ▸ hcolumn', ?_⟩, ?_⟩
    · rw [show node.text = _ from htext, spannedText_line, hsplit, String.ofList_append]
    · rw [show node.text = _ from htext, spannedText_line, hsplit, String.ofList_append,
        String.append_eq_left_iff, String.ofList_eq_empty_iff, List.drop_eq_nil_iff]
      dsimp only
      omega
  · obtain ⟨after, rfl⟩ : ∃ after, rest = front ++ last :: after := by
      obtain ⟨after, hafter⟩ : blockLines line rest <+: rest := List.take_prefix _ _
      exact ⟨after, by rw [← hafter, hblock, List.append_assoc, List.singleton_append]⟩
    refine ⟨line, _, getElem?_of_split rfl, hstop, fun heq => ?_, fun _ heq => ?_, fun _ => ?_⟩
    · dsimp only at heq
      omega
    · dsimp only at heq
      omega
    · rw [show node.text = _ from htext, spannedText_block]

/-- A comment behind the code of a function is not in its span. -/
theorem function_text_is_span_iff_comment :
    ∃ tree node, buildTree "def f(): pass  # note" true = .ok tree ∧ node ∈ tree.nodes ∧
      node.kind = "FunctionDeclaration" ∧ node.start = ⟨1, 1⟩ ∧ node.stop = some ⟨1, 14⟩ ∧
      node.text ≠ spannedText (Text.lines "def f(): pass  # note".toList) ⟨1, 1⟩ ⟨1, 14⟩ := by
  have hfirst : (((buildTree "def f(): pass  # note" true).toOption.bind fun t => t.nodes.toList.head?).map
      fun n => (n.kind, n.start, n.stop)) = some ("FunctionDeclaration", ⟨1, 1⟩, some ⟨1, 14⟩) := by decide +kernel
  obtain ⟨tree, node, htree, hnode, hfacts⟩ := exists_node_of_head? hfirst
  obtain ⟨hkind, hplace⟩ := Prod.mk.inj hfacts
  obtain ⟨hstart, hstop⟩ := Prod.mk.inj hplace
  obtain ⟨line, stop, hline, hend, -, hiff⟩ := function_text_is_span_iff htree hnode hkind
  rw [hstart] at hline hiff
  cases hstop.symm.trans hend
  obtain rfl : "def f(): pass  # note".toList = line := Option.some.inj hline
  refine ⟨tree, node, htree, hnode, hkind, hstart, hstop, fun heq => ?_⟩
  exact absurd (hiff.mp heq rfl) (by decide)

end Nodes

end SourceAudit.Outline
