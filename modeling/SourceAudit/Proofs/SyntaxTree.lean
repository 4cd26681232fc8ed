import SourceAudit.SyntaxTree

/-!
# The entries of a syntax tree

* `SyntaxTree.entries t` : what each node was made of and its parent, in the order of the nodes;
* `entries_add` : a new node is a new entry at the end;
* `entries_addArgument`, `entries_setProperty` : links between nodes change no entry.
-/

namespace SourceAudit.SyntaxTree

/-- What each node was made of and its parent. -/
def entries (t : SyntaxTree) : List (NodeSpec × Option Nat) := t.nodes.toList.map fun n => (n.toNodeSpec, n.parent)

@[simp] theorem entries_empty : empty.entries = [] := rfl

@[simp] theorem length_entries (t : SyntaxTree) : t.entries.length = t.size := by
  rw [entries, List.length_map, Array.length_toList, size]

theorem getElem?_entries (t : SyntaxTree) (i : Nat) :
    t.entries[i]? = (t.get? i).map fun n => (n.toNodeSpec, n.parent) := by
  rw [entries, List.getElem?_map, Array.getElem?_toList, get?]

/-- A change of a node that keeps what it was made of and its parent changes no entry. -/
theorem entries_modify (nodes : Array SyntaxNode) (roots : List Nat) (i : Nat) (f : SyntaxNode → SyntaxNode)
    (hf : ∀ n, (f n).toNodeSpec = n.toNodeSpec ∧ (f n).parent = n.parent) :
    entries { nodes := nodes.modify i f, roots } = entries { nodes, roots } := by
  refine List.ext_getElem? fun j => ?_
  simp only [getElem?_entries, get?, Array.getElem?_modify]
  split
  · cases nodes[j]? with
    | none => rfl
    | some n => simp [hf n]
  · rfl

@[simp] theorem entries_push (nodes : Array SyntaxNode) (roots : List Nat) (n : SyntaxNode) :
    entries { nodes := nodes.push n, roots } = entries { nodes, roots } ++ [(n.toNodeSpec, n.parent)] := by
  simp [entries]

@[simp] theorem entries_add (t : SyntaxTree) (spec : NodeSpec) (parent : Option Nat) :
    (t.add spec parent).entries = t.entries ++ [(spec, parent)] := by
  cases parent with
  | none => exact entries_push ..
  | some p =>
    refine (entries_push ..).trans (congrArg (· ++ [(spec, some p)]) ?_)
    exact entries_modify _ _ _ _ fun _ => ⟨rfl, rfl⟩

theorem getElem?_size_append (t : SyntaxTree) (e : NodeSpec × Option Nat) : (t.entries ++ [e])[t.size]? = some e := by
  rw [← length_entries, List.getElem?_concat_length]

@[simp] theorem entries_addArgument (t : SyntaxTree) (call argument : Nat) :
    (t.addArgument call argument).entries = t.entries := entries_modify _ _ _ _ fun _ => ⟨rfl, rfl⟩

@[simp] theorem entries_setProperty (t : SyntaxTree) (id : Nat) (key : String) (target : Nat) :
    (t.setProperty id key target).entries = t.entries := entries_modify _ _ _ _ fun _ => ⟨rfl, rfl⟩

theorem entries_foldl {α : Type} {step : SyntaxTree → α → SyntaxTree} (hstep : ∀ t a, (step t a).entries = t.entries)
    (as : List α) (t : SyntaxTree) : (as.foldl step t).entries = t.entries := by
  induction as generalizing t with
  | nil => rfl
  | cons a as ih => rw [List.foldl_cons, ih, hstep]

end SourceAudit.SyntaxTree
