import SourceAudit.Proofs.Outline.Nesting

/-!
# Where nodes come from

Every node of a built tree is made of a candidate of one line of the text.

* `MadeFrom hash lines n` : the node `n` is made of a candidate of one of `lines`;
* `place_madeFrom`, `addLine_madeFrom`, `buildFrom_madeFrom` : a candidate, a line and the rest of a text add no others;
* `madeFrom_of_buildTree` : the nodes of a whole tree;
* `start_within_of_buildTree` : so they start on lines of the text.
-/

namespace SourceAudit.Outline

variable {hash : Bool} {lines before rest : List (List Char)} {line : List Char}

def MadeFrom (hash : Bool) (lines : List (List Char)) (n : NodeSpec) : Prop :=
  ∃ before line rest scope cs c, lines = before ++ line :: rest ∧ Text.allBlank (maskLine hash line).mask = false ∧
    candidates line (maskLine hash line) = .ok cs ∧ c ∈ cs ∧ nodeSpec line rest (before.length + 1) scope c = .ok n

theorem Yields.foldlM {α σ : Type} {f : σ → α → Except BuildError σ} {P : σ → Prop} {as : List α}
    (hf : ∀ a ∈ as, ∀ s, P s → Yields (f s a) P) (s : σ) (hs : P s) : Yields (as.foldlM f s) P := by
  induction as generalizing s with
  | nil => exact .ok hs
  | cons a as ih =>
    rw [List.foldlM_cons]
    refine (hf a List.mem_cons_self s hs).bind fun s' hs' => ?_
    exact ih (fun a' ha => hf a' (List.mem_cons_of_mem a ha)) s' hs'

theorem place_madeFrom {cs : List Candidate} {c : Candidate} (hlines : lines = before ++ line :: rest)
    (hne : Text.allBlank (maskLine hash line).mask = false) (hcs : candidates line (maskLine hash line) = .ok cs)
    (hc : c ∈ cs) (enclosing : Option OpenFunction) (state : SyntaxTree × List Placed)
    (h : ∀ e ∈ state.1.entries, MadeFrom hash lines e.1) :
    Yields (place line rest (before.length + 1) enclosing state c) fun state =>
      ∀ e ∈ state.1.entries, MadeFrom hash lines e.1 := by
  refine .after fun n hn => .ok ?_
  dsimp only
  rw [SyntaxTree.entries_add]
  intro e he
  rcases List.mem_append.mp he with he | he
  · exact h e he
  · obtain rfl := List.mem_singleton.mp he
    exact ⟨before, line, rest, _, cs, c, hlines, hne, hcs, hc, hn⟩

theorem addLine_madeFrom {tree : SyntaxTree} (hlines : lines = before ++ line :: rest)
    (hne : Text.allBlank (maskLine hash line).mask = false) (enclosing : Option OpenFunction)
    (h : ∀ e ∈ tree.entries, MadeFrom hash lines e.1) :
    Yields (addLine tree line (maskLine hash line) rest (before.length + 1) enclosing) fun r =>
      ∀ e ∈ r.1.entries, MadeFrom hash lines e.1 := by
  refine .after fun cs hcs => ?_
  have hplace : ∀ c ∈ cs.mergeSort Candidate.before, ∀ state : SyntaxTree × List Placed,
      (∀ e ∈ state.1.entries, MadeFrom hash lines e.1) →
      Yields (place line rest (before.length + 1) enclosing state c) fun state =>
        ∀ e ∈ state.1.entries, MadeFrom hash lines e.1 := by
    intro c hc state hstate
    exact place_madeFrom hlines hne hcs ((List.mergeSort_perm cs _).mem_iff.mp hc) enclosing state hstate
  refine (Yields.foldlM hplace (tree, []) h).bind fun state hstate => .ok ?_
  rw [entries_link]
  exact hstate

theorem buildFrom_madeFrom {tree : SyntaxTree} {functions : List OpenFunction} {todo : List (List Char)}
    (hlines : lines = before ++ todo) (h : ∀ e ∈ tree.entries, MadeFrom hash lines e.1) :
    Yields (buildFrom hash tree functions (before.length + 1) todo) fun t => ∀ e ∈ t.entries,
      MadeFrom hash lines e.1 := by
  induction todo generalizing tree functions before with
  | nil => exact .ok h
  | cons line rest ih =>
    have hnext : lines = (before ++ [line]) ++ rest := by
      rw [hlines, List.append_assoc, List.singleton_append]
    have hnumber : before.length + 1 + 1 = (before ++ [line]).length + 1 := by
      rw [List.length_append, List.length_singleton]
    rw [buildFrom, hnumber]
    dsimp only
    split
    · exact ih hnext h
    · rename_i hne
      refine (addLine_madeFrom hlines (Bool.eq_false_iff.mpr hne) _ h).bind fun r hr => ?_
      exact ih hnext hr

theorem madeFrom_of_buildTree {source : String} {tree : SyntaxTree} (h : buildTree source hash = .ok tree)
    {node : SyntaxNode} (hnode : node ∈ tree.nodes) : MadeFrom hash (Text.lines source.toList) node.toNodeSpec := by
  have hempty : ∀ e ∈ SyntaxTree.empty.entries, MadeFrom hash (Text.lines source.toList) e.1 := by
    rw [SyntaxTree.entries_empty]
    exact fun e he => absurd he List.not_mem_nil
  have hall := buildFrom_madeFrom (List.nil_append _).symm hempty tree h
  refine hall (node.toNodeSpec, node.parent) (List.mem_map.mpr ⟨node, ?_, rfl⟩)
  exact Array.mem_toList_iff.mpr hnode

theorem start_within_of_buildTree {source : String} {tree : SyntaxTree} (h : buildTree source hash = .ok tree)
    {node : SyntaxNode} (hnode : node ∈ tree.nodes) : node.start.Within (Text.lines source.toList).length := by
  obtain ⟨before, line, rest, scope, cs, c, hlines, -, -, -, hn⟩ := madeFrom_of_buildTree h hnode
  obtain ⟨⟨column, hcolumn, hstart⟩, -⟩ := nodeSpec_yields _ hn
  obtain ⟨lead, tail, -, -, rfl⟩ := columnOf_ok_iff.mp hcolumn
  rw [show node.start = _ from hstart, hlines, List.length_append, List.length_cons]
  exact ⟨Nat.le_add_left 1 _, by dsimp only; omega, Nat.le_add_left 1 _⟩

end SourceAudit.Outline
