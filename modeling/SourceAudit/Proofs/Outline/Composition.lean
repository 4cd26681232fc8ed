import Mathlib.Data.List.TakeWhile
import SourceAudit.Proofs.Outline.Scope
import SourceAudit.Proofs.Outline.Skeleton
import SourceAudit.Proofs.Text.Lines

/-!
# The tree of a text in two parts

* `SyntaxTree.followedBy t k u` : the nodes of `t`, and behind them those of `u`, further down by `k` lines;
* `place_moved`, `addLine_moved`, `buildFrom_moved` : adding nodes behind other nodes adds the same nodes, moved;
* `TopLevel lines` : the first line that is not blank is not indented and closes no bracket;
* `blockLength_append` : no block before such lines reaches into them;
* `buildFrom_append` : so the lines before them are added as if nothing came after them, and all functions have ended;
* `buildTree_append` : the tree of two texts is that of the first, followed by that of the second.
-/

namespace SourceAudit

/-! ## Moved nodes -/

/-- A place further down. -/
def Location.below (k : Nat) (l : Location) : Location := { l with line := k + l.line }

/-- What is known of a node further down. -/
def NodeSpec.below (k : Nat) (s : NodeSpec) : NodeSpec :=
  { s with start := s.start.below k, stop := s.stop.map (Location.below k) }

def SortedMap.mapValues {α β : Type} (f : α → β) (m : SortedMap α) : SortedMap β :=
  ⟨m.entries.map fun e => (e.1, f e.2), List.pairwise_map.mpr m.ascending⟩

/-- A node further down, behind `base` others. -/
def SyntaxNode.moved (k base : Nat) (n : SyntaxNode) : SyntaxNode :=
  { n.toNodeSpec.below k with
    id := base + n.id, parent := n.parent.map (base + ·), children := n.children.map (base + ·),
    arguments := n.arguments.map (base + ·), properties := n.properties.mapValues (base + ·) }

theorem SortedMap.mapValues_empty {α β : Type} (f : α → β) : mapValues f {} = {} := rfl

theorem SortedMap.mapValues_insert {α β : Type} (f : α → β) (m : SortedMap α) (key : String) (value : α) :
    (m.insert key value).mapValues f = (m.mapValues f).insert key (f value) := by
  have hentry (es : List (String × α)) : (insertEntry key value es).map (fun e => (e.1, f e.2)) =
      insertEntry key (f value) (es.map fun e => (e.1, f e.2)) := by
    fun_induction insertEntry key value es with
    | case1 => rfl
    | case2 k v es hlt => simp [insertEntry, hlt]
    | case3 v es hlt => rw [List.map_cons, List.map_cons, insertEntry, if_neg hlt, if_pos rfl]
    | case4 k v es hlt heq ih => simp [insertEntry, hlt, heq, ih]
  exact SortedMap.ext (hentry m.entries)

namespace SyntaxTree

variable {t u : SyntaxTree} {k : Nat}

/-- The nodes of `t`, and behind them those of `u`, further down by `k` lines. -/
def followedBy (t : SyntaxTree) (k : Nat) (u : SyntaxTree) : SyntaxTree where
  nodes := t.nodes ++ u.nodes.map (SyntaxNode.moved k t.size)
  roots := t.roots ++ u.roots.map (t.size + ·)

@[simp] theorem size_followedBy (t : SyntaxTree) (k : Nat) (u : SyntaxTree) :
    (t.followedBy k u).size = t.size + u.size := by
  simp [followedBy, size]

@[simp] theorem followedBy_empty (t : SyntaxTree) (k : Nat) : t.followedBy k empty = t := by
  simp [followedBy, empty]

theorem get?_followedBy (t : SyntaxTree) (k : Nat) (u : SyntaxTree) (i : Nat) :
    (t.followedBy k u).get? (t.size + i) = (u.get? i).map (SyntaxNode.moved k t.size) := by
  rw [get?, followedBy, size]
  dsimp only
  rw [Array.getElem?_append_right (Nat.le_add_right _ _), Nat.add_sub_cancel_left, Array.getElem?_map, get?]

theorem append_map_modify (t : SyntaxTree) (nodes : Array SyntaxNode) (i : Nat) {f g : SyntaxNode → SyntaxNode}
    (hf : ∀ n, (f n).moved k t.size = g (n.moved k t.size)) :
    t.nodes ++ (nodes.modify i f).map (SyntaxNode.moved k t.size) =
      (t.nodes ++ nodes.map (SyntaxNode.moved k t.size)).modify (t.size + i) g := by
  refine Array.ext_getElem? fun j => ?_
  rw [Array.getElem?_modify, Array.getElem?_append, Array.getElem?_append]
  by_cases hj : j < t.nodes.size
  · rw [if_pos hj, if_pos hj, if_neg]
    rw [size]
    omega
  · rw [if_neg hj, if_neg hj, Array.getElem?_map, Array.getElem?_map, Array.getElem?_modify]
    by_cases hi : i = j - t.nodes.size
    · rw [if_pos hi, if_pos (by rw [size]; omega), Option.map_map, Option.map_map]
      exact congrArg (Option.map · _) (funext hf)
    · rw [if_neg hi, if_neg (by rw [size]; omega)]

theorem followedBy_add (t u : SyntaxTree) (spec : NodeSpec) (parent : Option Nat) :
    t.followedBy k (u.add spec parent) = (t.followedBy k u).add (spec.below k) (parent.map (t.size + ·)) := by
  cases parent with
  | none => simp [add, followedBy, size, SyntaxNode.moved, SortedMap.mapValues_empty]
  | some p =>
    have hchild := append_map_modify (k := k) t u.nodes p
      (f := fun n => { n with children := n.children ++ [u.size] })
      (g := fun n => { n with children := n.children ++ [t.size + u.size] })
      fun n => by simp [SyntaxNode.moved]
    simp only [add, Option.map_some, size_followedBy]
    simp only [followedBy, Array.map_push, Array.append_push, hchild]
    rfl

theorem followedBy_addArgument (t u : SyntaxTree) (call argument : Nat) :
    t.followedBy k (u.addArgument call argument) =
      (t.followedBy k u).addArgument (t.size + call) (t.size + argument) := by
  simp only [addArgument, followedBy]
  rw [append_map_modify]
  exact fun n => by simp [SyntaxNode.moved]

theorem followedBy_setProperty (t u : SyntaxTree) (id : Nat) (key : String) (target : Nat) :
    t.followedBy k (u.setProperty id key target) =
      (t.followedBy k u).setProperty (t.size + id) key (t.size + target) := by
  simp only [setProperty, followedBy]
  rw [append_map_modify]
  exact fun n => by simp [SyntaxNode.moved, SortedMap.mapValues_insert]

end SyntaxTree

namespace Outline

theorem Parallel.eq_map {α β : Type} {f : α → β} {x : Except BuildError α} {y : Except BuildError β}
    (h : Parallel (fun a b => b = f a) x y) : y = x.map f := by
  cases h with
  | ok hab => exact congrArg Except.ok hab
  | error e => rfl

/-- A placed candidate behind `base` other nodes. -/
def Placed.moved (base : Nat) (p : Placed) : Placed := { p with id := base + p.id }

/-- An open function further down, behind `base` other nodes. -/
def OpenFunction.moved (k base : Nat) (f : OpenFunction) : OpenFunction :=
  { f with id := base + f.id, endLine := k + f.endLine }

/-! ## Adding nodes behind others -/

section Moved

variable {line : List Char} {rest : List (List Char)}

theorem extent_below (k number : Nat) (c : Candidate) :
    Parallel (fun r r' => r' = (r.1, r.2.below k)) (extent line rest number c) (extent line rest (k + number) c) := by
  rw [extent.eq_def, extent.eq_def]
  split
  · refine Parallel.after _ fun head => ?_
    dsimp only
    split
    · exact .ok (by rw [Nat.add_assoc]; rfl)
    · exact Parallel.after _ fun column => .ok rfl
  · exact Parallel.after _ fun text => Parallel.after _ fun column => .ok rfl

theorem nodeSpec_below (k number : Nat) (scope : Option String) (c : Candidate) :
    Parallel (fun n n' => n' = n.below k ∧ n.stop.isSome = true) (nodeSpec line rest number scope c)
      (nodeSpec line rest (k + number) scope c) := by
  simp only [nodeSpec]
  refine Parallel.after _ fun column => (extent_below k number c).bind ?_
  rintro r _ rfl
  exact .ok ⟨rfl, rfl⟩

/-- The same state of a line, behind the nodes of `t`; the nodes of the line have ends. -/
def MovedState (t : SyntaxTree) (k : Nat) (s s' : SyntaxTree × List Placed) : Prop :=
  s' = (t.followedBy k s.1, s.2.map (Placed.moved t.size)) ∧
    ∀ p ∈ s.2, ((s.1.get? p.id).bind (·.stop)).isSome = true

theorem stop_isSome_add {u : SyntaxTree} {spec : NodeSpec} {parent : Option Nat} {i : Nat}
    (hspec : spec.stop.isSome = true) (hi : i = u.size ∨ ((u.get? i).bind (·.stop)).isSome = true) :
    (((u.add spec parent).get? i).bind (·.stop)).isSome = true := by
  rw [SyntaxTree.get?_add]
  by_cases hnew : i = u.size
  · rwa [if_pos hnew]
  · rw [if_neg hnew]
    have hold := hi.resolve_left hnew
    cases hget : u.get? i with
    | none =>
      rw [hget] at hold
      cases hold
    | some n =>
      rw [hget] at hold
      simp only [Option.map_some, Option.bind_some] at hold ⊢
      split <;> exact hold

theorem find?_moved (base : Nat) (placed : List Placed) (q : Candidate → Bool) :
    (placed.map (Placed.moved base)).find? (fun p => q p.candidate) =
      (placed.find? fun p => q p.candidate).map (Placed.moved base) := List.find?_map

theorem place_moved (t : SyntaxTree) (k number : Nat) (enclosing : Option OpenFunction)
    {s s' : SyntaxTree × List Placed} (c : Candidate) (h : MovedState t k s s') :
    Parallel (MovedState t k) (place line rest number enclosing s c)
      (place line rest (k + number) (enclosing.map (OpenFunction.moved k t.size)) s' c) := by
  obtain ⟨u, placed⟩ := s
  obtain ⟨rfl, hstops⟩ := h
  have hname : (enclosing.map (OpenFunction.moved k t.size)).map (·.name) = enclosing.map (·.name) := by
    rw [Option.map_map]
    rfl
  simp only [place, hname]
  refine (nodeSpec_below k number _ c).bind ?_
  rintro spec _ ⟨rfl, hspec⟩
  refine .ok ⟨?_, fun p hp => ?_⟩
  · -- the holder of the candidate, or else the enclosing function, is the same node, moved
    rw [find?_moved t.size placed fun d => d.span.holds c.span, SyntaxTree.followedBy_add, SyntaxTree.size_followedBy,
      List.map_cons, Option.map_or]
    simp only [Option.map_map]
    rfl
  · refine stop_isSome_add hspec ?_
    rcases List.mem_cons.mp hp with rfl | hp
    · exact .inl rfl
    · exact .inr (hstops p hp)

theorem nodeAt?_moved (base : Nat) (placed : List Placed) (span : Span) :
    nodeAt? (placed.map (Placed.moved base)) span = (nodeAt? placed span).map (base + ·) := by
  rw [nodeAt?, nodeAt?, find?_moved base placed fun d => d.span == span, Option.map_map, Option.map_map]
  rfl

theorem link_moved (t u : SyntaxTree) (k : Nat) (placed : List Placed) :
    t.followedBy k (link placed u) = link (placed.map (Placed.moved t.size)) (t.followedBy k u) := by
  rw [link, link, List.foldl_map]
  refine (List.foldl_hom (t.followedBy k) fun u p => ?_).symm
  have htargets : p.candidate.operands.filterMap (nodeAt? (placed.map (Placed.moved t.size))) =
      (p.candidate.operands.filterMap (nodeAt? placed)).map (t.size + ·) := by
    rw [List.map_filterMap]
    exact congrArg (List.filterMap · _) (funext (nodeAt?_moved t.size placed))
  simp only [Placed.moved] at htargets ⊢
  rw [htargets]
  split
  · rw [List.foldl_map]
    exact List.foldl_hom (t.followedBy k) fun u target => (t.followedBy_addArgument u p.id target).symm
  · cases p.candidate.operands.filterMap (nodeAt? placed) with
    | nil => rfl
    | cons target targets => exact (t.followedBy_setProperty u p.id "value" target).symm
  · rfl

theorem openedBy_moved {t : SyntaxTree} {k : Nat} {s s' : SyntaxTree × List Placed} (h : MovedState t k s s') :
    openedBy s'.1 s'.2 = (openedBy s.1 s.2).map (OpenFunction.moved k t.size) := by
  obtain ⟨rfl, hstops⟩ := h
  rw [openedBy, openedBy, find?_moved t.size s.2 fun c => c.kind = .functionDeclaration]
  cases hfind : s.2.find? fun p => p.candidate.kind = .functionDeclaration with
  | none => rfl
  | some p =>
    obtain ⟨stop, hstop⟩ := Option.isSome_iff_exists.mp (hstops p (List.mem_of_find?_eq_some hfind))
    have hmoved : (((t.followedBy k s.1).get? (t.size + p.id)).bind (·.stop)) = some (stop.below k) := by
      rw [SyntaxTree.get?_followedBy]
      obtain ⟨n, hn, hstop⟩ := Option.bind_eq_some_iff.mp hstop
      rw [hn, Option.map_some, Option.bind_some, SyntaxNode.moved, NodeSpec.below, hstop]
      rfl
    simp only [Option.map_some, Placed.moved, OpenFunction.moved, hmoved, hstop]
    rfl

theorem addLine_moved (t u : SyntaxTree) (k number : Nat) (masked : MaskedLine) (enclosing : Option OpenFunction) :
    Parallel (fun r r' => r' = (t.followedBy k r.1, r.2.map (OpenFunction.moved k t.size)))
      (addLine u line masked rest number enclosing)
      (addLine (t.followedBy k u) line masked rest (k + number) (enclosing.map (OpenFunction.moved k t.size))) := by
  simp only [addLine]
  refine Parallel.after _ fun cs => ?_
  have hstart : MovedState t k (u, []) (t.followedBy k u, []) := ⟨rfl, by simp⟩
  have hsame (cs : List Candidate) : List.Forall₂ Eq cs cs := List.forall₂_same.mpr fun _ _ => rfl
  refine (Parallel.foldlM (hsame _) (fun s s' c c' hs hc => hc ▸ place_moved t k number enclosing c hs) hstart).bind ?_
  intro s s' hs
  refine .ok ?_
  rw [openedBy_moved hs]
  obtain ⟨rfl, -⟩ := hs
  rw [link_moved, List.map_reverse]

theorem buildFrom_moved (hash : Bool) (t u : SyntaxTree) (k number : Nat) (functions : List OpenFunction)
    (lines : List (List Char)) :
    Parallel (fun v v' => v' = t.followedBy k v) (buildFrom hash u functions number lines)
      (buildFrom hash (t.followedBy k u) (functions.map (OpenFunction.moved k t.size)) (k + number) lines) := by
  induction lines generalizing u functions number with
  | nil => exact .ok rfl
  | cons line rest ih =>
    have hdrop : (functions.map (OpenFunction.moved k t.size)).dropWhile (·.endLine < k + number) =
        (functions.dropWhile (·.endLine < number)).map (OpenFunction.moved k t.size) := by
      rw [List.dropWhile_map]
      congr 2
      funext f
      simp [OpenFunction.moved]
    rw [buildFrom, buildFrom, hdrop]
    dsimp only
    split
    · exact ih _ _ _
    · rw [List.head?_map]
      refine (addLine_moved t u k number _ _).bind ?_
      rintro ⟨v, opened⟩ _ rfl
      rw [Option.toList_map, ← List.map_append]
      exact ih _ _ _

end Moved

/-! ## Seams -/

section Seam

variable {line : List Char} {rest lines lines' : List (List Char)} {hash : Bool} {number : Nat}
  {functions : List OpenFunction} {tree : SyntaxTree} {rs : List Row}

/-- The first line that is not blank is not indented and closes no bracket. -/
def TopLevel (lines : List (List Char)) : Prop :=
  ∀ line ∈ lines.find? (fun l => !(Text.trimStart l).isEmpty),
    indentation line = 0 ∧ ∀ c ∈ (Text.trimStart line).head?, closesBracket c = false

instance (lines : List (List Char)) : Decidable (TopLevel lines) :=
  decidable_of_iff ((lines.find? fun l => !(Text.trimStart l).isEmpty).all (fun line =>
      indentation line == 0 && (Text.trimStart line).head?.all fun c => closesBracket c == false) = true) <| by
    simp only [TopLevel, Option.all_eq_true, Bool.and_eq_true, beq_iff_eq, Option.mem_def]

theorem TopLevel.tail (h : TopLevel (line :: lines)) (hblank : Text.trimStart line = []) : TopLevel lines := by
  intro l hl
  refine h l ?_
  rwa [List.find?_cons_of_neg (by simp [hblank])]

/-- None of the lines belongs to a block before them. -/
theorem TopLevel.blockLength_eq (h : TopLevel lines) (indent : Nat) : blockLength indent lines = 0 := by
  induction lines with
  | nil => rfl
  | cons line lines ih =>
    cases hl : Text.trimStart line with
    | nil => rw [blockLength_blank hl, ih (h.tail hl), if_pos rfl]
    | cons c tail =>
      obtain ⟨hindent, hc⟩ := h line (List.find?_cons_of_pos (by simp [hl]))
      rw [blockLength_shallow hl (by omega), hc c (by rw [hl]; rfl), Bool.and_false]
      rfl

theorem blockLength_append (h : TopLevel lines') (indent : Nat) (lines : List (List Char)) :
    blockLength indent (lines ++ lines') = blockLength indent lines := by
  induction lines with
  | nil => exact h.blockLength_eq indent
  | cons line lines ih =>
    rw [List.cons_append]
    cases hl : Text.trimStart line with
    | nil => rw [blockLength_blank hl, blockLength_blank hl, ih]
    | cons c tail =>
      by_cases hi : indent < indentation line
      · rw [blockLength_deeper hl hi, blockLength_deeper hl hi, ih]
      · rw [blockLength_shallow hl hi, blockLength_shallow hl hi]

theorem blockLines_append (h : TopLevel lines') (line : List Char) (rest : List (List Char)) :
    blockLines line (rest ++ lines') = blockLines line rest := by
  have hlength : blockLengthFrom (indentation line) 0 0 (rest ++ lines') =
      blockLengthFrom (indentation line) 0 0 rest :=
    blockLength_append h (indentation line) rest
  have hle := blockLengthFrom_le (indentation line) 0 0 rest (Nat.le_refl 0)
  rw [blockLines, blockLines, hlength, List.take_append_of_le_length (by omega)]

/-- Of the lines that follow, only the block of a line matters to its nodes. -/
theorem addLine_congr_block {rest' : List (List Char)} (h : blockLines line rest' = blockLines line rest)
    (tree : SyntaxTree) (masked : MaskedLine) (number : Nat) (enclosing : Option OpenFunction) :
    addLine tree line masked rest' number enclosing = addLine tree line masked rest number enclosing := by
  have hplace : place line rest' number enclosing = place line rest number enclosing := by
    funext s c
    simp only [place, nodeSpec, extent, h]
  rw [addLine, addLine, hplace]

/-- A function whose block ends in some lines has ended behind them. -/
theorem Stacked.ended (h : Stacked tree.entries number [] functions) : ∀ f ∈ functions, f.endLine < number := by
  intro f hf
  obtain ⟨-, -, stop, -, -, -, hopen⟩ := h.opened f hf
  by_contra hlive
  obtain ⟨indent, k, last, hcloses, -⟩ := hopen (not_lt.mp hlive)
  cases hcloses.2

theorem buildFrom_ended (h : ∀ f ∈ functions, f.endLine < number) (tree : SyntaxTree) (lines : List (List Char)) :
    buildFrom hash tree functions number lines = buildFrom hash tree [] number lines := by
  cases lines with
  | nil => rfl
  | cons line rest =>
    have hnone : functions.dropWhile (·.endLine < number) = [] :=
      List.dropWhile_eq_nil_iff.mpr fun f hf => decide_eq_true (h f hf)
    rw [buildFrom, buildFrom, hnone]
    rfl

/-- Lines before a seam are added as if nothing came after them, and all their functions have ended there. -/
theorem buildFrom_append (h : TopLevel lines') (hs : Surveyed rs tree.entries number)
    (hstack : Stacked tree.entries number lines functions) :
    buildFrom hash tree functions number (lines ++ lines') =
      buildFrom hash tree functions number lines >>= fun t => buildFrom hash t [] (lines.length + number) lines' := by
  induction lines generalizing tree functions number rs with
  | nil =>
    rw [List.nil_append, List.length_nil, Nat.zero_add]
    exact buildFrom_ended hstack.ended tree lines'
  | cons line rest ih =>
    have hnumber : (line :: rest).length + number = rest.length + (number + 1) := by
      rw [List.length_cons]
      omega
    rw [List.cons_append, buildFrom, buildFrom, hnumber]
    dsimp only
    split
    · rename_i hblank
      have hnext : Surveyed rs tree.entries (number + 1) :=
        ⟨hs.nested, fun e he => Nat.lt_succ_of_lt (hs.starts e he), hs.apart, hs.length_eq, hs.described⟩
      exact ih hnext hstack.drop.next
    · rename_i hcode
      rw [addLine_congr_block (blockLines_append h line rest)]
      cases hline : addLine tree line (maskLine hash line) rest number
        (functions.dropWhile (·.endLine < number)).head? with
      | error e => rfl
      | ok r =>
        obtain ⟨hs', hstack'⟩ := addLine_surveyed hs hstack (Bool.eq_false_iff.mpr hcode) r hline
        exact ih hs' hstack'

/-- A text that is empty or ends with a line feed ends no line of its own in the text behind it. -/
theorem lines_of_append {a b : String} (ha : a = "" ∨ a.toList.getLast? = some '\n') :
    Text.lines (a ++ b).toList = Text.lines a.toList ++ Text.lines b.toList := by
  rw [String.toList_append]
  rcases ha with rfl | ha
  · rfl
  · obtain ⟨cs, hcs⟩ := List.getLast?_eq_some_iff.mp ha
    rw [hcs, List.append_assoc, List.singleton_append, Text.lines_append]

/-- **The tree of two texts.** Let the first text be empty or end with a line feed, and let the second start at top
level. The tree of both cannot be built exactly if that of one of them cannot. Otherwise it has the nodes of the
first, and behind them those of the second, with lines and numbers to match. -/
theorem buildTree_append (a b : String) (hash : Bool) (ha : a = "" ∨ a.toList.getLast? = some '\n')
    (hb : TopLevel (Text.lines b.toList)) :
    ((∃ e, buildTree (a ++ b) hash = .error e) ↔
      (∃ e, buildTree a hash = .error e) ∨ ∃ e, buildTree b hash = .error e) ∧
    ∀ t u, buildTree a hash = .ok t → buildTree b hash = .ok u →
      buildTree (a ++ b) hash = .ok (t.followedBy (Text.lines a.toList).length u) := by
  have hsecond (t : SyntaxTree) : buildFrom hash t [] ((Text.lines a.toList).length + 1) (Text.lines b.toList) =
      (buildTree b hash).map (t.followedBy (Text.lines a.toList).length) := by
    have hmoved := buildFrom_moved hash t .empty (Text.lines a.toList).length 1 [] (Text.lines b.toList)
    rw [SyntaxTree.followedBy_empty] at hmoved
    exact hmoved.eq_map
  have hparts : buildTree (a ++ b) hash =
      buildTree a hash >>= fun t => (buildTree b hash).map (t.followedBy (Text.lines a.toList).length) := by
    simp only [← hsecond]
    rw [buildTree, lines_of_append ha]
    exact buildFrom_append hb surveyed_empty (stacked_empty _)
  rw [hparts]
  cases buildTree a hash with
  | error e => exact ⟨iff_of_true ⟨e, rfl⟩ (.inl ⟨e, rfl⟩), fun t u ht => by cases ht⟩
  | ok t =>
    cases buildTree b hash with
    | error e => exact ⟨iff_of_true ⟨e, rfl⟩ (.inr ⟨e, rfl⟩), fun t u _ hu => by cases hu⟩
    | ok u =>
      refine ⟨iff_of_false ?_ ?_, fun t' u' ht hu => ?_⟩
      · rintro ⟨e, he⟩
        cases he
      · rintro (⟨e, he⟩ | ⟨e, he⟩) <;> cases he
      · cases ht
        cases hu
        rfl

/-- A call at top level, after a blank line, is behind a function whose block ends with a comment. -/
theorem buildTree_append_after_block :
    TopLevel (Text.lines "\ng()\n".toList) ∧ ∃ t u, buildTree "def f():\n  # x\n" true = .ok t ∧
      buildTree "\ng()\n" true = .ok u ∧
      buildTree ("def f():\n  # x\n" ++ "\ng()\n") true = .ok (t.followedBy 2 u) := by
  obtain ⟨t, ht⟩ := exists_tree_of_no_equals "def f():\n  # x\n" true (by decide +kernel)
  obtain ⟨u, hu⟩ := exists_tree_of_no_equals "\ng()\n" true (by decide +kernel)
  refine ⟨by decide, t, u, ht, hu, ?_⟩
  exact (buildTree_append _ _ true (.inr (by decide)) (by decide)).2 t u ht hu

end Seam

end Outline

end SourceAudit
