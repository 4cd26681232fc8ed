import SourceAudit.Proofs.Outline.Overlap
import SourceAudit.Proofs.Outline.Scope

/-!
# Links stay inside expressions

* `SyntaxTree.links? t i` : the arguments and properties of a node;
* `targets base cs c` : the nodes of a line that the operands of a candidate are, in order;
* `links_link`, `addLine_links` : a line links its own nodes, each to its targets, and no others;
* `NodesOf hash lines tree base number line cs` : the candidates `cs` of a line became nodes of the tree from `base` on;
* `addLine_allOnLines`, `buildFrom_allOnLines` : every node of a built tree belongs to a line;
* `NodesOf.mem_ancestors` : a call is an ancestor of what comes after it and holds one of its arguments;
* `CallLinks`, `AssignmentLinks` : where the arguments of a call and the value of an assignment are;
* `links_stay_inside` : so it is in every built tree, and no other node has links.
-/

namespace SourceAudit

/-- The arguments and properties of a node. -/
structure Links where
  arguments : List Nat := []
  properties : SortedMap Nat := {}

def SyntaxNode.links (n : SyntaxNode) : Links := ⟨n.arguments, n.properties⟩

namespace SyntaxTree

def links? (t : SyntaxTree) (i : Nat) : Option Links := (t.get? i).map SyntaxNode.links

theorem links?_add (t : SyntaxTree) (spec : NodeSpec) (parent : Option Nat) (i : Nat) :
    (t.add spec parent).links? i = if i = t.size then some {} else t.links? i := by
  rw [links?, get?_add]
  by_cases hi : i = t.size
  · rw [if_pos hi, if_pos hi]
    rfl
  · rw [if_neg hi, if_neg hi, Option.map_map, links?]
    congr 1
    funext n
    rw [Function.comp_apply]
    split_ifs <;> rfl

theorem links?_modify (t : SyntaxTree) (id i : Nat) {f : SyntaxNode → SyntaxNode} {g : Links → Links}
    (hf : ∀ n, (f n).links = g n.links) :
    SyntaxTree.links? { t with nodes := t.nodes.modify id f } i =
      if id = i then (t.links? i).map g else t.links? i := by
  simp only [links?, get?, Array.getElem?_modify]
  split_ifs with hi
  · rw [Option.map_map, Option.map_map]
    congr 1
    funext n
    exact hf n
  · rfl

theorem links?_addArguments (t : SyntaxTree) (call : Nat) (targets : List Nat) (i : Nat) :
    (targets.foldl (fun t target => t.addArgument call target) t).links? i =
      if call = i then (t.links? i).map fun l => { l with arguments := l.arguments ++ targets } else t.links? i := by
  induction targets generalizing t with
  | nil => simp
  | cons target targets ih =>
    have hone := links?_modify t call i (f := fun n => { n with arguments := n.arguments ++ [target] })
      (g := fun l => { l with arguments := l.arguments ++ [target] }) fun _ => rfl
    rw [List.foldl_cons, ih, addArgument, hone]
    split_ifs
    · rw [Option.map_map]
      congr 1
      funext l
      simp
    · rfl

end SyntaxTree

namespace Outline

variable {hash : Bool} {line : List Char} {rest lines : List (List Char)} {number base : Nat} {tree : SyntaxTree}
  {enclosing : Option OpenFunction} {c : Candidate} {cs : List Candidate}

/-! ## The links of a line -/

/-- The nodes that the operands of a candidate are, of those that the candidates of its line become. -/
def targets (base : Nat) (cs : List Candidate) (c : Candidate) : List Nat :=
  c.operands.filterMap (nodeAt? (numbered base cs))

/-- The links of a kind of node with given targets, in addition to others: a call has them for its arguments, an
assignment the first of them for its value. -/
def NodeKind.link : NodeKind → List Nat → Links → Links
  | .call, targets, l => { l with arguments := l.arguments ++ targets }
  | .assignment, value :: _, l => { l with properties := l.properties.insert "value" value }
  | _, _, l => l

def linkNode (find : Span → Option Nat) (tree : SyntaxTree) (p : Placed) : SyntaxTree :=
  let targets := p.candidate.operands.filterMap find
  match p.candidate.kind with
  | .call => targets.foldl (fun tree target => tree.addArgument p.id target) tree
  | .assignment =>
    match targets with
    | target :: _ => tree.setProperty p.id "value" target
    | [] => tree
  | _ => tree

theorem link_eq_foldl (placed : List Placed) (tree : SyntaxTree) :
    link placed tree = placed.foldl (linkNode (nodeAt? placed)) tree := rfl

theorem links?_linkNode (find : Span → Option Nat) (tree : SyntaxTree) (p : Placed) (i : Nat) :
    (linkNode find tree p).links? i =
      if p.id = i then (tree.links? i).map (p.candidate.kind.link (p.candidate.operands.filterMap find))
      else tree.links? i := by
  have hsame : tree.links? i = if p.id = i then (tree.links? i).map (fun l => l) else tree.links? i := by
    rw [Option.map_id', ite_self]
  unfold linkNode
  dsimp only
  cases p.candidate.kind with
  | call => exact SyntaxTree.links?_addArguments tree p.id _ i
  | assignment =>
    cases p.candidate.operands.filterMap find with
    | nil => exact hsame
    | cons target _ => exact SyntaxTree.links?_modify tree p.id i fun _ => rfl
  | _ => exact hsame

theorem links?_foldl_of_ne (find : Span → Option Nat) (tree : SyntaxTree) (ps : List Placed) {i : Nat}
    (h : ∀ p ∈ ps, p.id ≠ i) : (ps.foldl (linkNode find) tree).links? i = tree.links? i := by
  induction ps generalizing tree with
  | nil => rfl
  | cons p ps ih =>
    rw [List.forall_mem_cons] at h
    rw [List.foldl_cons, ih _ h.2, links?_linkNode, if_neg h.1]

theorem numbered_increasing (base : Nat) (cs : List Candidate) :
    (numbered base cs).Pairwise fun p q => p.id < q.id := by
  refine List.pairwise_iff_getElem.mpr fun i j hi hj hlt => ?_
  simp only [numbered, List.getElem_mapIdx]
  omega

theorem mem_numbered {p : Placed} (h : p ∈ numbered base cs) : base ≤ p.id ∧ p.id < base + cs.length := by
  obtain ⟨i, hi, rfl⟩ := List.mem_mapIdx.mp h
  exact ⟨Nat.le_add_right _ _, Nat.add_lt_add_left hi base⟩

theorem numbered_split (base : Nat) {done todo : List Candidate} (h : cs = done ++ c :: todo) :
    ∃ front back, numbered base cs = front ++ ⟨c, base + done.length⟩ :: back := by
  refine ⟨numbered base done, todo.mapIdx fun i c => ⟨c, base + (i + 1 + done.length)⟩, ?_⟩
  rw [h, numbered, List.mapIdx_append, List.mapIdx_cons, Nat.zero_add]
  rfl

/-- The links of a line: each of its nodes to its targets, and nothing else. -/
theorem links_link (hbare : ∀ i, base ≤ i → i < base + cs.length → tree.links? i = some {}) :
    (∀ i < base, (link (numbered base cs) tree).links? i = tree.links? i) ∧
      ∀ done c todo, cs = done ++ c :: todo →
        (link (numbered base cs) tree).links? (base + done.length) = some (c.kind.link (targets base cs c) {}) := by
  rw [link_eq_foldl]
  refine ⟨fun i hi => links?_foldl_of_ne _ _ _ fun p hp => ?_, fun done c todo hsplit => ?_⟩
  · have := (mem_numbered hp).1
    omega
  · obtain ⟨front, back, hplaced⟩ := numbered_split base hsplit
    have hincreasing := hplaced ▸ numbered_increasing base cs
    obtain ⟨-, hback, hfront⟩ := List.pairwise_append.mp hincreasing
    have hlength : base + done.length < base + cs.length := by
      rw [hsplit, List.length_append, List.length_cons]
      omega
    -- nothing before or after links this node
    have hbehind : ∀ p ∈ back, p.id ≠ base + done.length :=
      fun p hp => Nat.ne_of_gt ((List.pairwise_cons.mp hback).1 p hp)
    have hbefore : ∀ p ∈ front, p.id ≠ base + done.length :=
      fun p hp => Nat.ne_of_lt (hfront p hp _ List.mem_cons_self)
    rw [targets, hplaced, List.foldl_append, List.foldl_cons, links?_foldl_of_ne _ _ back hbehind,
      links?_linkNode, if_pos rfl, links?_foldl_of_ne _ _ front hbefore, hbare _ (Nat.le_add_right _ _) hlength]
    rfl

/-- New nodes have no links yet, and the others keep theirs. -/
theorem placeAll_bare (tree : SyntaxTree) (cs : List Candidate) :
    Yields (cs.foldlM (place line rest number enclosing) (tree, [])) fun state =>
      (∀ i < tree.size, state.1.links? i = tree.links? i) ∧
        ∀ i, tree.size ≤ i → i < tree.size + cs.length → state.1.links? i = some {} := by
  have hplace : Yields (cs.foldlM (place line rest number enclosing) (tree, [])) fun state =>
      tree.size ≤ state.1.size ∧ (∀ i < tree.size, state.1.links? i = tree.links? i) ∧
        ∀ i, tree.size ≤ i → i < state.1.size → state.1.links? i = some {} := by
    refine Yields.foldlM (fun c _ state hstate => ?_) (tree, []) ⟨Nat.le_refl _, fun _ _ => rfl, fun i hle hlt => ?_⟩
    · obtain ⟨hsize, hold, hnew⟩ := hstate
      refine .after fun n _ => .ok ⟨?_, fun i hi => ?_, fun i hle hlt => ?_⟩
      · rw [SyntaxTree.size_add]
        omega
      · rw [SyntaxTree.links?_add, if_neg (by omega), hold i hi]
      · rw [SyntaxTree.size_add] at hlt
        rw [SyntaxTree.links?_add]
        split_ifs
        · rfl
        · exact hnew i hle (by omega)
    · exact absurd hlt (Nat.not_lt.mpr hle)
  intro state hstate
  obtain ⟨-, hold, hnew⟩ := hplace state hstate
  obtain ⟨-, es, hes, hadded⟩ := placeAll_added tree cs state hstate
  have hsize : state.1.size = tree.size + cs.length := by
    rw [← SyntaxTree.length_entries, hes, List.length_append, SyntaxTree.length_entries, hadded.length_eq]
  exact ⟨hold, fun i hle hlt => hnew i hle (hsize ▸ hlt)⟩

theorem addLine_links (tree : SyntaxTree) (masked : MaskedLine) :
    Yields (addLine tree line masked rest number enclosing) fun r => ∃ cs, candidates line masked = .ok cs ∧
      (∀ i < tree.size, r.1.links? i = tree.links? i) ∧
      ∀ done c todo, cs.mergeSort Candidate.before = done ++ c :: todo → r.1.links? (tree.size + done.length) =
        some (c.kind.link (targets tree.size (cs.mergeSort Candidate.before) c) {}) := by
  refine .after fun cs hcs => .after fun state hstate => .ok ⟨cs, hcs, ?_⟩
  obtain ⟨hold, hbare⟩ := placeAll_bare tree _ state hstate
  obtain ⟨hplaced, -⟩ := placeAll_added tree _ state hstate
  obtain ⟨hkeep, hlinks⟩ := links_link hbare
  dsimp only
  rw [hplaced, List.reverse_reverse]
  exact ⟨fun i hi => (hkeep i hi).trans (hold i hi), hlinks⟩

/-! ## Nodes of a line -/

/-- The candidates of a line, in order, became nodes of a tree from a number on. -/
structure NodesOf (hash : Bool) (lines : List (List Char)) (tree : SyntaxTree) (base number : Nat) (line : List Char)
    (cs : List Candidate) : Prop where
  onLine : lines[number - 1]? = some line
  sorted : ∃ ds, candidates line (maskLine hash line) = .ok ds ∧ cs = ds.mergeSort Candidate.before
  added : ∃ rest enclosing es, Added line rest number enclosing base cs es ∧
    ∀ (i : Nat) (e : NodeSpec × Option Nat), es[i]? = some e → tree.entries[base + i]? = some e
  linked : ∀ done c todo, cs = done ++ c :: todo →
    tree.links? (base + done.length) = some (c.kind.link (targets base cs c) {})

/-- Every node belongs to a line. -/
def AllOnLines (hash : Bool) (lines : List (List Char)) (tree : SyntaxTree) : Prop :=
  ∀ i < tree.size, ∃ base number line cs, NodesOf hash lines tree base number line cs ∧ base ≤ i ∧ i < base + cs.length

theorem NodesOf.grow {tree' : SyntaxTree} (h : NodesOf hash lines tree base number line cs)
    (hentries : tree.entries <+: tree'.entries) (hlinks : ∀ i < tree.size, tree'.links? i = tree.links? i) :
    NodesOf hash lines tree' base number line cs where
  onLine := h.onLine
  sorted := h.sorted
  added := by
    obtain ⟨rest, enclosing, es, hadded, hes⟩ := h.added
    exact ⟨rest, enclosing, es, hadded, fun i e hi => getElem?_of_extends hentries (hes i e hi)⟩
  linked done c todo hsplit := by
    obtain ⟨rest, enclosing, es, hadded, hes⟩ := h.added
    obtain ⟨n, parent, hn, -⟩ := hadded.entry done c todo hsplit
    have hlt := (List.getElem?_eq_some_iff.mp (hes _ _ hn)).1
    rw [SyntaxTree.length_entries] at hlt
    rw [hlinks _ hlt, h.linked done c todo hsplit]

theorem addLine_allOnLines (h : AllOnLines hash lines tree) (hline : lines[number - 1]? = some line) :
    Yields (addLine tree line (maskLine hash line) rest number enclosing) fun r => AllOnLines hash lines r.1 := by
  intro r hr
  obtain ⟨cs, es, hcs, hes, hadded, -⟩ := addLine_added tree _ r hr
  obtain ⟨cs', hcs', hold, hnew⟩ := addLine_links tree _ r hr
  cases hcs.symm.trans hcs'
  intro i hi
  by_cases hlt : i < tree.size
  · obtain ⟨base, number, line, cs, hnodes, hbounds⟩ := h i hlt
    exact ⟨base, number, line, cs, hnodes.grow (hes ▸ List.prefix_append _ _) hold, hbounds⟩
  · have hentries (j : Nat) (e : NodeSpec × Option Nat) (hj : es[j]? = some e) :
        r.1.entries[tree.size + j]? = some e := by
      rw [hes, List.getElem?_append_right (by rw [SyntaxTree.length_entries]; omega), SyntaxTree.length_entries,
        Nat.add_sub_cancel_left, hj]
    refine ⟨tree.size, number, line, _, ⟨hline, ⟨cs, hcs, rfl⟩, ⟨_, _, es, hadded, hentries⟩, hnew⟩, not_lt.mp hlt, ?_⟩
    rwa [← SyntaxTree.length_entries, hes, List.length_append, SyntaxTree.length_entries, hadded.length_eq] at hi

theorem buildFrom_allOnLines {functions : List OpenFunction} {todo : List (List Char)} (before : List (List Char))
    (h : AllOnLines hash lines tree) (hlines : lines = before ++ todo) :
    Yields (buildFrom hash tree functions (before.length + 1) todo) (AllOnLines hash lines) := by
  induction todo generalizing tree functions before with
  | nil => exact .ok h
  | cons line rest ih =>
    have hnext : lines = (before ++ [line]) ++ rest := by rw [hlines, List.append_assoc, List.singleton_append]
    have hlength : (before ++ [line]).length = before.length + 1 := by simp
    rw [buildFrom, ← hlength]
    dsimp only
    split
    · exact ih _ h hnext
    · refine (addLine_allOnLines h ?_).bind fun r hr => ih _ hr hnext
      rw [hlength, Nat.add_sub_cancel, hlines, List.getElem?_append_right (Nat.le_refl _), Nat.sub_self,
        List.getElem?_cons_zero]

theorem allOnLines_of_lines (h : buildFrom hash .empty [] 1 lines = .ok tree) : AllOnLines hash lines tree := by
  have hempty : AllOnLines hash lines .empty := fun i hi => absurd hi (Nat.not_lt_zero i)
  exact buildFrom_allOnLines [] hempty rfl tree h

section NodesOf

variable {done front back todo : List Candidate}

theorem NodesOf.reads (h : NodesOf hash lines tree base number line cs) :
    ∀ c ∈ cs, c.Reads (maskLine hash line).mask := by
  obtain ⟨ds, hds, rfl⟩ := h.sorted
  intro c hc
  exact candidates_read ds hds c ((List.mergeSort_perm ds _).mem_iff.mp hc)

theorem NodesOf.ordered (h : NodesOf hash lines tree base number line cs) :
    cs.Pairwise fun a b => a.before b = true := by
  obtain ⟨ds, -, rfl⟩ := h.sorted
  exact List.pairwise_mergeSort Candidate.before_trans Candidate.before_total ds

/-- Of two candidates on a line, the one with fewer before it is among those before the other. -/
theorem split_before {q : Candidate} (hc : cs = front ++ c :: back) (hq : cs = done ++ q :: todo)
    (hlt : front.length < done.length) : ∃ mid, done = front ++ c :: mid ∧ back = mid ++ q :: todo := by
  rcases List.append_eq_append_iff.mp (hc.symm.trans hq) with ⟨m, hm, hrest⟩ | ⟨m, hm, -⟩
  · cases m with
    | nil => simp [hm] at hlt
    | cons y m =>
      obtain ⟨rfl, hback⟩ := List.cons.inj hrest
      exact ⟨m, hm, hback⟩
  · rw [hm, List.length_append] at hlt
    omega

theorem NodesOf.before {q : Candidate} (h : NodesOf hash lines tree base number line cs) (hc : cs = front ++ c :: back)
    (hq : cs = done ++ q :: todo) (hlt : front.length < done.length) : c.before q = true := by
  obtain ⟨mid, hdone, -⟩ := split_before hc hq hlt
  have hordered := hq ▸ h.ordered
  exact (List.pairwise_append.mp hordered).2.2 c (by simp [hdone]) q List.mem_cons_self

theorem NodesOf.length_lt {q : Candidate} (h : NodesOf hash lines tree base number line cs)
    (hc : cs = front ++ c :: back) (hq : cs = done ++ q :: todo) (hstart : c.span.start < q.span.start) :
    front.length < done.length := by
  rcases Nat.lt_trichotomy front.length done.length with hlt | heq | hgt
  · exact hlt
  · obtain ⟨-, hrest⟩ := List.append_inj (hc.symm.trans hq) heq
    cases hrest
    exact absurd hstart (Nat.lt_irrefl _)
  · have := h.before hq hc hgt
    rw [Candidate.before_iff] at this
    omega

theorem NodesOf.exists_node (h : NodesOf hash lines tree base number line cs) (hc : cs = done ++ c :: todo) :
    ∃ n rest scope enclosing, tree.get? (base + done.length) = some n ∧
      nodeSpec line rest number scope c = .ok n.toNodeSpec ∧ n.parent = (heldBy? base done c).or enclosing ∧
      n.links = c.kind.link (targets base cs c) {} := by
  obtain ⟨rest, enclosing, es, hadded, hes⟩ := h.added
  obtain ⟨n, parent, hn, hspec, hparent⟩ := hadded.entry done c todo hc
  obtain ⟨m, hm, hentry⟩ := exists_get?_of_entry (hes _ _ hn)
  cases hentry
  have hlinks := h.linked done c todo hc
  rw [SyntaxTree.links?, hm] at hlinks
  exact ⟨m, rest, _, _, hm, hspec, hparent, Option.some.inj hlinks⟩

/-- A call is an ancestor of what comes after it and holds one of its arguments. -/
theorem NodesOf.mem_ancestors {q x : Candidate} (h : NodesOf hash lines tree base number line cs)
    (hlinked : SyntaxTree.Linked tree) (t : CallText (maskLine hash line).mask) (hspan : c.span = t.span)
    (hc : cs = front ++ c :: back) (hx : x ∈ cs) (harg : x.span ∈ splitArguments (maskLine hash line).mask t.inside)
    (hq : cs = done ++ q :: todo) (hlt : front.length < done.length) (hholds : q.span.holds x.span = true) :
    base + front.length ∈ tree.ancestors (base + done.length) := by
  -- by induction on the number of candidates before; the holder of `q` is the call, or comes after it
  induction hn : done.length using Nat.strongRecOn generalizing done q todo with
  | ind n ih =>
    subst hn
    obtain ⟨mid, hdone, -⟩ := split_before hc hq hlt
    have hmem : q ∈ cs := by simp [hq]
    have hholdsq := t.holds_of_before hspan (h.reads x hx) harg (h.reads q hmem) (h.before hc hq hlt) hholds
    obtain ⟨n, -, -, enclosing, hget, -, hparent, -⟩ := h.exists_node hq
    rw [← parent?_of_get? hget] at hparent
    have hheld := held_heldBy? base done q
    generalize heldBy? base done q = o at hheld hparent
    cases hheld with
    | none hnone =>
      rw [hnone c (by simp [hdone])] at hholdsq
      cases hholdsq
    | @some above behind holder hsplit hholder hnone =>
      rw [hlinked.ancestors_of_child hparent]
      rcases Nat.lt_trichotomy front.length above.length with hlt' | heq | hgt
      · have hcs : cs = above ++ holder :: (behind ++ q :: todo) := by rw [hq, hsplit]; simp
        have hholds' : holder.span.holds x.span = true := by
          rw [Span.holds_iff] at hholder hholds ⊢
          omega
        have hshort : above.length < done.length := by
          rw [hsplit, List.length_append, List.length_cons]
          omega
        exact List.mem_cons_of_mem _ (ih _ hshort hcs hlt' hholds' rfl)
      · rw [heq]
        exact List.mem_cons_self
      · -- the call would come after the last holder
        obtain ⟨mid', -, hbehind⟩ := split_before hsplit hdone hgt
        rw [hnone c (by simp [hbehind])] at hholdsq
        cases hholdsq

theorem split_of_nodeAt? {s : Span} {v : Nat} (h : nodeAt? (numbered base cs) s = some v) :
    ∃ done x todo, cs = done ++ x :: todo ∧ x.span = s ∧ v = base + done.length := by
  obtain ⟨p, hp, rfl⟩ := Option.map_eq_some_iff.mp h
  obtain ⟨front, back, hsplit⟩ := List.append_of_mem (List.mem_of_find?_eq_some hp)
  obtain ⟨hcs, hid⟩ := split_of_numbered hsplit
  refine ⟨_, _, _, hcs, by simpa using List.find?_some hp, ?_⟩
  rw [List.length_map]
  exact hid

/-- The node starts and ends on a line where a span does. -/
def StandsAt (line : List Char) (number : Nat) (s : Span) (n : NodeSpec) : Prop :=
  ∃ column column', columnOf line s.start = .ok column ∧ columnOf line s.stop = .ok column' ∧
    n.start = ⟨number, column⟩ ∧ n.stop = some ⟨number, column'⟩

theorem NodesOf.stands (h : NodesOf hash lines tree base number line cs) (hc : cs = done ++ c :: todo)
    (hstart : (codeSpan (maskLine hash line).mask).start < c.span.start ∨ c.kind ≠ .functionDeclaration) :
    ∃ n, tree.get? (base + done.length) = some n ∧ StandsAt line number c.span n.toNodeSpec := by
  have hk : c.kind ≠ .functionDeclaration := by
    intro hk
    obtain ⟨ds, hds, hcs⟩ := h.sorted
    have hmem : c ∈ ds := (List.mergeSort_perm ds Candidate.before).mem_iff.mp (by rw [← hcs, hc]; simp)
    rcases hstart with hlt | hne
    · rw [span_of_function hds hmem hk] at hlt
      exact Nat.lt_irrefl _ hlt
    · exact hne hk
  obtain ⟨n, rest, scope, -, hget, hspec, -, -⟩ := h.exists_node hc
  obtain ⟨w, column, column', -, hcolumn, hcolumn', -, hn, hn'⟩ := nodeSpec_of_line hk _ hspec
  exact ⟨n, hget, column, column', hcolumn, hcolumn', hn, hn'⟩

/-! ## Links of calls and assignments -/

/-- The links of a call. Its arguments are below it and stand between its parentheses, one after the other. -/
structure CallLinks (hash : Bool) (lines : List (List Char)) (tree : SyntaxTree) (i : Nat) (n : SyntaxNode) : Prop where
  no_properties : n.properties = {}
  increasing : n.arguments.Pairwise (· < ·)
  apart : n.arguments.Pairwise fun a b => ∃ m m' stop, tree.get? a = some m ∧ tree.get? b = some m' ∧
    m.stop = some stop ∧ stop.line = m'.start.line ∧ stop.column ≤ m'.start.column
  inside : ∃ line, lines[n.start.line - 1]? = some line ∧ ∃ t : CallText (maskLine hash line).mask,
    n.name = some (String.ofList t.name) ∧ StandsAt line n.start.line t.span n.toNodeSpec ∧
      ∀ a ∈ n.arguments, i ∈ tree.ancestors a ∧
        ∃ m s, tree.get? a = some m ∧ StandsAt line n.start.line s m.toNodeSpec ∧ t.inside.holds s = true

/-- The links of an assignment. It has a value at most, which starts behind the name and ends with the assignment. -/
structure AssignmentLinks (tree : SyntaxTree) (n : SyntaxNode) : Prop where
  no_arguments : n.arguments = []
  value : n.properties = {} ∨ ∃ v m name, n.properties = .ofList [("value", v)] ∧ tree.get? v = some m ∧
    n.name = some name ∧ m.start.line = n.start.line ∧ n.start.column + name.length < m.start.column ∧ m.stop = n.stop

theorem NodesOf.exists_argument {s : Span} {a : Nat} (h : NodesOf hash lines tree base number line cs)
    (t : CallText (maskLine hash line).mask) (hs : s ∈ splitArguments (maskLine hash line).mask t.inside)
    (ha : nodeAt? (numbered base cs) s = some a) :
    ∃ done x todo m, cs = done ++ x :: todo ∧ x.span = s ∧ a = base + done.length ∧ t.span.start < s.start ∧
      tree.get? a = some m ∧ StandsAt line number s m.toNodeSpec := by
  obtain ⟨done, x, todo, hx, rfl, rfl⟩ := split_of_nodeAt? ha
  have hlt : t.span.start < x.span.start := by
    have := (splitArguments_within x.span hs).1
    have := t.start_lt_opening
    have : t.inside.start = t.opening + 1 := rfl
    omega
  obtain ⟨m, hm, hstands⟩ := h.stands hx (.inl (t.codeStart_le.trans_lt hlt))
  exact ⟨done, x, todo, m, hx, rfl, rfl, hlt, hm, hstands⟩

theorem NodesOf.callLinks {n : SyntaxNode} (h : NodesOf hash lines tree base number line cs)
    (hlinked : SyntaxTree.Linked tree) (hc : cs = front ++ c :: back) (hk : c.kind = .call)
    (hn : tree.get? (base + front.length) = some n) : CallLinks hash lines tree (base + front.length) n := by
  obtain ⟨t, hname, hspan, hoperands⟩ := (h.reads c (by simp [hc])).exists_callText hk
  obtain ⟨m, rest, scope, -, hget, hspec, -, hlinks⟩ := h.exists_node hc
  cases hn.symm.trans hget
  obtain ⟨m, hget, column, column', hstart, hstop, hstart', hstop'⟩ := h.stands hc (.inr (by simp [hk]))
  cases hn.symm.trans hget
  rw [hk] at hlinks
  have harguments : n.arguments =
      (splitArguments (maskLine hash line).mask t.inside).filterMap (nodeAt? (numbered base cs)) := by
    rw [← hoperands]
    exact congrArg Links.arguments hlinks
  -- arguments that come one after the other have increasing numbers
  have hordered : n.arguments.Pairwise fun a b => a < b ∧ ∃ m m' stop, tree.get? a = some m ∧ tree.get? b = some m' ∧
      m.stop = some stop ∧ stop.line = m'.start.line ∧ stop.column ≤ m'.start.column := by
    rw [harguments, List.pairwise_filterMap]
    refine (splitArguments_ordered _ _).imp_of_mem fun {s s'} hs hs' hle a ha b hb => ?_
    obtain ⟨done, x, todo, m, hx, rfl, rfl, -, hm, hstands⟩ := h.exists_argument t hs ha
    obtain ⟨done', x', todo', m', hx', rfl, rfl, -, hm', hstands'⟩ := h.exists_argument t hs' hb
    obtain ⟨-, last, -, hlast, -, hmstop⟩ := hstands
    obtain ⟨first, -, hfirst, -, hmstart, -⟩ := hstands'
    have hlt := h.length_lt hx hx' ((splitArguments_ne _ hs).trans_le hle)
    refine ⟨Nat.add_lt_add_left hlt base, m, m', _, hm, hm', hmstop, ?_, ?_⟩
    · rw [hmstart]
    · rw [hmstart]
      exact columnOf_mono hlast hfirst hle
  have hnumber : n.start.line = number := by rw [hstart']
  refine ⟨congrArg Links.properties hlinks, hordered.imp And.left, hordered.imp And.right, line, ?_, t, ?_, ?_, ?_⟩
  · rw [hnumber]
    exact h.onLine
  · rw [(nodeSpec_kind _ hspec).2, hname]
  · rw [hnumber, ← hspan]
    exact ⟨column, column', hstart, hstop, hstart', hstop'⟩
  · intro a ha
    rw [harguments] at ha
    obtain ⟨s, hs, ha⟩ := List.mem_filterMap.mp ha
    obtain ⟨done, x, todo, m, hx, rfl, rfl, hlt, hm, hstands⟩ := h.exists_argument t hs ha
    have hafter := h.length_lt hc hx (hspan ▸ hlt)
    have hself : x.span.holds x.span = true := Span.holds_iff.mpr ⟨Nat.le_refl _, Nat.le_refl _⟩
    refine ⟨h.mem_ancestors hlinked t hspan hc (by simp [hx]) hs hx hafter hself, m, x.span, hm, ?_, ?_⟩
    · rw [hnumber]
      exact hstands
    · exact Span.holds_iff.mpr (splitArguments_within x.span hs)

theorem columnOf_behind_name {mask before name after : List Char} {n column column' : Nat} (hb : Blanked line mask)
    (hmask : mask = before ++ (name ++ after)) (hname : IsName name)
    (hcolumn : columnOf line (Text.byteLength before) = .ok column) (hcolumn' : columnOf line n = .ok column')
    (hlt : Text.byteLength before + Text.byteLength name < n) : column + name.length < column' := by
  obtain ⟨a, b, hab, ha, rfl⟩ := columnOf_ok_iff.mp hcolumn
  obtain ⟨a', b', hab', rfl, rfl⟩ := columnOf_ok_iff.mp hcolumn'
  have hcut := cut_ok_iff (s := ⟨Text.byteLength before, Text.byteLength before + Text.byteLength name⟩).mpr
    ⟨before, after, hmask, rfl, rfl⟩
  obtain ⟨x, y, hxy, hx, -⟩ := cut_ok_iff.mp (hb.cut_eq hcut hname.ne_space ⟨a, b, hab, ha⟩)
  obtain ⟨rfl, -⟩ := Text.split_eq (hxy.symm.trans hab) (hx.trans ha.symm)
  have hsplit : (x ++ name) ++ y = a' ++ b' := by rw [List.append_assoc, ← hxy, hab']
  have hlonger : Text.byteLength (x ++ name) < Text.byteLength a' := by rwa [Text.byteLength_append, ha]
  obtain ⟨m, rfl, -⟩ := Text.split_le hsplit hlonger.le
  cases m with
  | nil => simp at hlonger
  | cons d m =>
    simp only [List.length_append, List.length_cons]
    omega

theorem NodesOf.assignmentLinks {n : SyntaxNode} (h : NodesOf hash lines tree base number line cs)
    (hc : cs = front ++ c :: back) (hk : c.kind = .assignment) (hn : tree.get? (base + front.length) = some n) :
    AssignmentLinks tree n := by
  obtain ⟨t, start, hname, hspan, hoperands, hlt⟩ := (h.reads c (by simp [hc])).exists_assignmentText hk
  obtain ⟨m, rest, scope, -, hget, hspec, -, hlinks⟩ := h.exists_node hc
  cases hn.symm.trans hget
  obtain ⟨m, hget, column, column', hstart, hstop, hstart', hstop'⟩ := h.stands hc (.inr (by simp [hk]))
  cases hn.symm.trans hget
  rw [hk, targets, hoperands] at hlinks
  cases hvalue : nodeAt? (numbered base cs) ⟨start, c.span.stop⟩ with
  | none =>
    rw [List.filterMap_cons_none hvalue] at hlinks
    exact ⟨congrArg Links.arguments hlinks, .inl (congrArg Links.properties hlinks)⟩
  | some v =>
    rw [List.filterMap_cons_some hvalue] at hlinks
    refine ⟨congrArg Links.arguments hlinks, .inr ?_⟩
    obtain ⟨done, x, todo, hx, hxspan, rfl⟩ := split_of_nodeAt? hvalue
    have hcode : (codeSpan (maskLine hash line).mask).start < x.span.start := by
      have := codeStart_le_of_isName t.text t.isName
      rw [hxspan]
      dsimp only
      omega
    obtain ⟨m, hm, first, last, hfirst, hlast, hmstart, hmstop⟩ := h.stands hx (.inl hcode)
    rw [hxspan] at hfirst hlast
    rw [hspan] at hstart
    cases hstop.symm.trans hlast
    have hnamed := (nodeSpec_kind _ hspec).2.trans hname
    refine ⟨_, m, String.ofList t.name, congrArg Links.properties hlinks, hm, hnamed, ?_, ?_, ?_⟩
    · rw [hmstart, hstart']
    · rw [hmstart, hstart', String.length_ofList]
      exact columnOf_behind_name (maskLine_blanked hash line) t.text t.isName hstart hfirst hlt
    · rw [hmstop, hstop']

theorem NodesOf.no_links {n : SyntaxNode} (h : NodesOf hash lines tree base number line cs)
    (hc : cs = front ++ c :: back) (hcall : c.kind ≠ .call) (hassignment : c.kind ≠ .assignment)
    (hn : tree.get? (base + front.length) = some n) :
    n.arguments = [] ∧ n.properties = {} := by
  obtain ⟨m, -, -, -, hget, -, -, hlinks⟩ := h.exists_node hc
  cases hn.symm.trans hget
  have hnone (l : Links) : c.kind.link (targets base cs c) l = l := by
    cases hk : c.kind with
    | call => exact absurd hk hcall
    | assignment => exact absurd hk hassignment
    | _ => rfl
  rw [hnone] at hlinks
  exact ⟨congrArg Links.arguments hlinks, congrArg Links.properties hlinks⟩

end NodesOf

/-- **Links stay inside expressions.** The arguments of a call are below it, on its line and between its parentheses,
with increasing numbers and places. An assignment has no property but its value, which starts behind the name and ends
with the assignment. No other node has arguments or properties. -/
theorem links_stay_inside (source : String) (hash : Bool) (tree : SyntaxTree) (h : buildTree source hash = .ok tree) :
    ∀ i n, tree.get? i = some n →
      (n.kind = "CallExpression" → CallLinks hash (Text.lines source.toList) tree i n) ∧
      (n.kind = "Assignment" → AssignmentLinks tree n) ∧
      (n.kind ≠ "CallExpression" → n.kind ≠ "Assignment" → n.arguments = [] ∧ n.properties = {}) := by
  intro i n hn
  have hlt : i < tree.size := Nat.lt_of_not_le fun hle => by
    rw [(tree.get?_eq_none_iff i).mpr hle] at hn
    cases hn
  obtain ⟨base, number, line, cs, hnodes, hle, hbound⟩ := allOnLines_of_lines h i hlt
  obtain ⟨k, rfl⟩ := Nat.exists_eq_add_of_le hle
  have hk : k < cs.length := Nat.lt_of_add_lt_add_left hbound
  have hsplit : cs = cs.take k ++ cs[k] :: cs.drop (k + 1) := by rw [List.getElem_cons_drop, List.take_append_drop]
  have hlength : (cs.take k).length = k := List.length_take_of_le hk.le
  rw [← hlength] at hn ⊢
  obtain ⟨m, rest, scope, -, hget, hspec, -⟩ := hnodes.exists_node hsplit
  cases hn.symm.trans hget
  have hkind := (nodeSpec_kind _ hspec).1
  have hname {kind : NodeKind} (hkn : n.kind = kind.name) : cs[k].kind = kind :=
    NodeKind.name_injective (hkind.symm.trans hkn)
  refine ⟨fun hcall => ?_, fun hassignment => ?_, fun hcall hassignment => ?_⟩
  · exact hnodes.callLinks (linked_of_lines h) hsplit (hname hcall) hn
  · exact hnodes.assignmentLinks hsplit (hname hassignment) hn
  · refine hnodes.no_links hsplit (fun hk => hcall ?_) (fun hk => hassignment ?_) hn
    · rw [hkind, hk]
      rfl
    · rw [hkind, hk]
      rfl

/-- An assigned call with a name for its argument. -/
theorem links_stay_inside_of_assigned_call :
    ∃ tree n m, buildTree "x = f(a)\n" true = .ok tree ∧ tree.get? 0 = some n ∧ n.properties = .ofList [("value", 1)] ∧
      AssignmentLinks tree n ∧ tree.get? 1 = some m ∧ m.arguments = [2] ∧
      CallLinks true (Text.lines "x = f(a)\n".toList) tree 1 m := by
  have hrun : (buildTree "x = f(a)\n" true).toOption.any
      (fun tree => (tree.get? 0).any fun n => (tree.get? 1).any fun m =>
      decide (n.kind = "Assignment" ∧ n.properties = .ofList [("value", 1)] ∧ m.kind = "CallExpression" ∧
        m.arguments = [2])) = true := by
    rw [buildTree_line rfl rfl]
    decide +kernel
  obtain ⟨tree, htree, hrun⟩ := exists_tree_of_any hrun
  obtain ⟨n, hn, hrun⟩ := (Option.any_eq_true _ _).mp hrun
  obtain ⟨m, hm, hrun⟩ := (Option.any_eq_true _ _).mp hrun
  obtain ⟨hassignment, hvalue, hcall, harguments⟩ := of_decide_eq_true hrun
  have hlinks := links_stay_inside _ _ tree htree
  exact ⟨tree, n, m, htree, hn, hvalue, (hlinks 0 n hn).2.1 hassignment, hm, harguments, (hlinks 1 m hm).1 hcall⟩

end Outline

end SourceAudit
