import SourceAudit.Proofs.Outline.Origin
import SourceAudit.Proofs.SyntaxTree.Forest

/-!
# What a line adds to a tree

* `numbered base cs` : candidates with the numbers of their nodes, from `base` on;
* `heldBy? base done c`, `Held` : the number of the last of the candidates `done` of a line that holds `c`;
* `Added line rest number enclosing base cs es` : the candidates `cs` of a line become the entries `es`;
* `placeAll_added`, `addLine_added` : all that a line adds, and the function that it opens;
* `rows hash base number lines` : the candidates of all lines, with their holders;
* `linked_of_lines` : a built tree is a forest.
-/

namespace SourceAudit.Outline

open SyntaxTree (Linked)

variable {line : List Char} {rest : List (List Char)} {number base : Nat} {enclosing : Option OpenFunction}
  {c : Candidate} {cs done : List Candidate} {es : List (NodeSpec × Option Nat)}

/-! ## Parents on a line -/

def numbered (base : Nat) (cs : List Candidate) : List Placed := cs.mapIdx fun i c => ⟨c, base + i⟩

theorem numbered_concat (base : Nat) (cs : List Candidate) (c : Candidate) :
    numbered base (cs ++ [c]) = numbered base cs ++ [⟨c, base + cs.length⟩] := List.mapIdx_concat

theorem map_candidate_numbered (base : Nat) (cs : List Candidate) : (numbered base cs).map (·.candidate) = cs := by
  refine List.ext_getElem? fun i => ?_
  rw [List.getElem?_map, numbered, List.getElem?_mapIdx, Option.map_map]
  exact Option.map_id'

theorem split_of_numbered {front back : List Placed} {p : Placed} (h : numbered base cs = front ++ p :: back) :
    cs = front.map (·.candidate) ++ p.candidate :: back.map (·.candidate) ∧ p.id = base + front.length := by
  constructor
  · rw [← map_candidate_numbered base cs, h, List.map_append, List.map_cons]
  · have hget : (numbered base cs)[front.length]? = some p := by
      rw [h, List.getElem?_append_right (Nat.le_refl _), Nat.sub_self, List.getElem?_cons_zero]
    rw [numbered, List.getElem?_mapIdx] at hget
    obtain ⟨c, -, rfl⟩ := Option.map_eq_some_iff.mp hget
    rfl

/-- The number of the last candidate before `c` on its line whose span holds that of `c`. -/
def heldBy? (base : Nat) (done : List Candidate) (c : Candidate) : Option Nat :=
  ((numbered base done).reverse.find? fun p => p.candidate.span.holds c.span).map (·.id)

/-- The last candidate before `c` that holds it has a number, or there is none. -/
inductive Held (base : Nat) (done : List Candidate) (c : Candidate) : Option Nat → Prop where
  | some {front back : List Candidate} {holder : Candidate} : done = front ++ holder :: back →
      holder.span.holds c.span = true → (∀ d ∈ back, d.span.holds c.span = false) →
      Held base done c (some (base + front.length))
  | none : (∀ d ∈ done, d.span.holds c.span = false) → Held base done c none

theorem Held.bounds {o : Option Nat} (h : Held base done c o) : ∀ p ∈ o, base ≤ p ∧ p < base + done.length := by
  intro p hp
  cases h with
  | none => cases hp
  | some hdone =>
    cases hp
    rw [hdone, List.length_append, List.length_cons]
    omega

theorem held_heldBy? (base : Nat) (done : List Candidate) (c : Candidate) : Held base done c (heldBy? base done c) := by
  rw [heldBy?]
  cases hfind : (numbered base done).reverse.find? fun p => p.candidate.span.holds c.span with
  | none =>
    refine .none fun d hd => ?_
    rw [← map_candidate_numbered base done] at hd
    obtain ⟨p, hp, rfl⟩ := List.mem_map.mp hd
    simpa using List.find?_eq_none.mp hfind p (List.mem_reverse.mpr hp)
  | some p =>
    obtain ⟨hholds, after, before, hsplit, hafter⟩ := List.find?_eq_some_iff_append.mp hfind
    obtain ⟨hdone, hid⟩ := split_of_numbered (show numbered base done = before.reverse ++ p :: after.reverse by
      rw [← List.reverse_reverse (numbered base done), hsplit]
      simp)
    rw [Option.map_some, hid, ← List.length_map (f := Placed.candidate)]
    refine .some hdone hholds fun d hd => ?_
    obtain ⟨q, hq, rfl⟩ := List.mem_map.mp hd
    simpa using hafter q (List.mem_reverse.mp hq)

/-! ## Entries of a line -/

/-- The candidates of a line become entries, in order, from the number `base` on. -/
structure Added (line : List Char) (rest : List (List Char)) (number : Nat) (enclosing : Option OpenFunction)
    (base : Nat) (cs : List Candidate) (es : List (NodeSpec × Option Nat)) : Prop where
  length_eq : es.length = cs.length
  entry : ∀ done c todo, cs = done ++ c :: todo → ∃ n parent, es[done.length]? = some (n, parent) ∧
    nodeSpec line rest number (enclosing.map (·.name)) c = .ok n ∧
    parent = (heldBy? base done c).or (enclosing.map (·.id))

theorem added_nil : Added line rest number enclosing base [] [] := ⟨rfl, by simp⟩

theorem Added.concat {n : NodeSpec} {parent : Option Nat} (h : Added line rest number enclosing base cs es)
    (hn : nodeSpec line rest number (enclosing.map (·.name)) c = .ok n)
    (hparent : parent = (heldBy? base cs c).or (enclosing.map (·.id))) :
    Added line rest number enclosing base (cs ++ [c]) (es ++ [(n, parent)]) := by
  refine ⟨by simp [h.length_eq], fun done d todo hsplit => ?_⟩
  rcases List.eq_nil_or_concat todo with rfl | ⟨todo, last, rfl⟩
  · obtain ⟨rfl, hd⟩ := List.append_inj' hsplit rfl
    cases hd
    exact ⟨n, parent, by rw [← h.length_eq, List.getElem?_concat_length], hn, hparent⟩
  · rw [List.concat_eq_append, ← List.cons_append, ← List.append_assoc] at hsplit
    obtain ⟨hcs, -⟩ := List.append_inj' hsplit rfl
    obtain ⟨m, q, hm, hspec⟩ := h.entry done d todo hcs
    exact ⟨m, q, getElem?_of_extends (List.prefix_append _ _) hm, hspec⟩

/-- Every entry of a line is the entry of one of its candidates. -/
theorem Added.of_getElem? {i : Nat} {n : NodeSpec} {parent : Option Nat}
    (h : Added line rest number enclosing base cs es) (hi : es[i]? = some (n, parent)) :
    ∃ done c todo, cs = done ++ c :: todo ∧ done.length = i ∧
      nodeSpec line rest number (enclosing.map (·.name)) c = .ok n ∧
      parent = (heldBy? base done c).or (enclosing.map (·.id)) := by
  have hlt : i < cs.length := h.length_eq ▸ (List.getElem?_eq_some_iff.mp hi).1
  have hsplit : cs = cs.take i ++ cs[i] :: cs.drop (i + 1) := by
    rw [List.getElem_cons_drop, List.take_append_drop]
  obtain ⟨m, q, hm, hn, hparent⟩ := h.entry _ _ _ hsplit
  have hlength : (cs.take i).length = i := List.length_take_of_le hlt.le
  rw [hlength] at hm
  cases hi.symm.trans hm
  exact ⟨_, _, _, hsplit, hlength, hn, hparent⟩

/-- All candidates of a line become nodes, one after the other. -/
theorem placeAll_added (tree : SyntaxTree) (cs : List Candidate) :
    Yields (cs.foldlM (place line rest number enclosing) (tree, [])) fun state =>
      state.2 = (numbered tree.size cs).reverse ∧
        ∃ es, state.1.entries = tree.entries ++ es ∧ Added line rest number enclosing tree.size cs es := by
  induction cs using List.reverseRecOn with
  | nil => exact .ok ⟨rfl, [], (List.append_nil _).symm, added_nil⟩
  | append_singleton cs c ih =>
    rw [List.foldlM_append]
    refine ih.bind ?_
    rintro ⟨tree', placed⟩ ⟨rfl, es, hes, hadded⟩
    have hsize : tree'.size = tree.size + cs.length := by
      rw [← SyntaxTree.length_entries, hes, List.length_append, SyntaxTree.length_entries, hadded.length_eq]
    rw [List.foldlM_cons]
    refine Yields.bind (P := fun state => state.2 = (numbered tree.size (cs ++ [c])).reverse ∧
      ∃ es, state.1.entries = tree.entries ++ es ∧ Added line rest number enclosing tree.size (cs ++ [c]) es) ?_
      fun state hstate => .ok hstate
    refine .after fun n hn => .ok ⟨?_, _, ?_, hadded.concat hn rfl⟩
    · rw [numbered_concat, List.reverse_concat, hsize]
    · rw [SyntaxTree.entries_add, hes, List.append_assoc]
      rfl

/-- A line adds the entries of its candidates and opens the function among them. -/
theorem addLine_added (tree : SyntaxTree) (masked : MaskedLine) :
    Yields (addLine tree line masked rest number enclosing) fun r => ∃ cs es, candidates line masked = .ok cs ∧
      r.1.entries = tree.entries ++ es ∧
      Added line rest number enclosing tree.size (cs.mergeSort Candidate.before) es ∧
      ∃ t : SyntaxTree, t.entries = r.1.entries ∧
        r.2 = openedBy t (numbered tree.size (cs.mergeSort Candidate.before)).reverse := by
  refine .after fun cs hcs => (placeAll_added tree _).bind ?_
  rintro ⟨tree', placed⟩ ⟨rfl, es, hes, hadded⟩
  exact .ok ⟨cs, es, hcs, by rw [entries_link, hes], hadded, tree', (entries_link _ _).symm, rfl⟩

/-! ## Rows -/

/-- A candidate on its line, with the number of the candidate of the line that holds it. -/
structure Row where
  number : Nat
  line : List Char
  candidate : Candidate
  held : Option Nat

def lineRows (base number : Nat) (line : List Char) (cs : List Candidate) : List Row :=
  cs.mapIdx fun i c => ⟨number, line, c, heldBy? base (cs.take i) c⟩

/-- The candidates of a line, of which a line without code has none. -/
def rowsAt (hash : Bool) (base number : Nat) (line : List Char) : List Row :=
  if Text.allBlank (maskLine hash line).mask then []
  else lineRows base number line (((candidates line (maskLine hash line)).toOption.getD []).mergeSort Candidate.before)

def rows (hash : Bool) (base number : Nat) : List (List Char) → List Row
  | [] => []
  | line :: rest =>
    rowsAt hash base number line ++ rows hash (base + (rowsAt hash base number line).length) (number + 1) rest

theorem Added.getElem?_lineRows {i : Nat} {n : NodeSpec} {parent : Option Nat}
    (h : Added line rest number enclosing base cs es) (hi : es[i]? = some (n, parent)) :
    ∃ r, (lineRows base number line cs)[i]? = some r ∧ r.number = number ∧ r.line = line ∧
      nodeSpec line rest number (enclosing.map (·.name)) r.candidate = .ok n ∧
      parent = r.held.or (enclosing.map (·.id)) ∧ ∀ p ∈ r.held, base ≤ p ∧ p < base + i := by
  obtain ⟨done, c, todo, rfl, rfl, hn, hparent⟩ := h.of_getElem? hi
  refine ⟨⟨number, line, c, heldBy? base done c⟩, ?_, rfl, rfl, hn, hparent, fun p hp => ?_⟩
  · rw [lineRows, List.getElem?_mapIdx, List.getElem?_append_right (Nat.le_refl _), Nat.sub_self,
      List.getElem?_cons_zero, Option.map_some, List.take_left]
  · exact (held_heldBy? base done c).bounds p hp

/-! ## Forests -/

theorem link_linked (placed : List Placed) {tree : SyntaxTree} (h : Linked tree) :
    Linked (link placed tree) ∧ (link placed tree).size = tree.size := by
  have hargument (t : SyntaxTree) (call argument : Nat) (ht : Linked t ∧ t.size = tree.size) :
      Linked (t.addArgument call argument) ∧ (t.addArgument call argument).size = tree.size :=
    have hs := SyntaxTree.sameShape_addArgument t call argument
    ⟨ht.1.sameShape hs, hs.size_eq.trans ht.2⟩
  rw [link]
  refine List.foldlRecOn (motive := fun t => Linked t ∧ t.size = tree.size) placed _ ⟨h, rfl⟩ fun t ht p _ => ?_
  dsimp only
  split
  · exact List.foldlRecOn (motive := fun t => Linked t ∧ t.size = tree.size) _ _ ht fun t ht a _ =>
      hargument t p.id a ht
  · split
    · have hs := SyntaxTree.sameShape_setProperty t p.id "value"
      exact ⟨ht.1.sameShape (hs _), (hs _).size_eq.trans ht.2⟩
    · exact ht
  · exact ht

/-- The tree is a forest, and has a node for everything that can become a parent. -/
def HasParents (enclosing : Option OpenFunction) (state : SyntaxTree × List Placed) : Prop :=
  Linked state.1 ∧ (∀ p ∈ state.2, p.id < state.1.size) ∧ ∀ f ∈ enclosing, f.id < state.1.size

theorem place_hasParents {state : SyntaxTree × List Placed} (h : HasParents enclosing state) :
    Yields (place line rest number enclosing state c) (HasParents enclosing) := by
  obtain ⟨hlinked, hplaced, henclosing⟩ := h
  refine .after fun n _ => .ok ⟨SyntaxTree.linked_add hlinked fun p hp => ?_, fun p hp => ?_, fun f hf => ?_⟩
  · rcases Option.or_eq_some_iff.mp hp with hp | ⟨-, hp⟩
    · obtain ⟨q, hq, rfl⟩ := Option.map_eq_some_iff.mp hp
      exact hplaced q (List.mem_of_find?_eq_some hq)
    · obtain ⟨f, hf, rfl⟩ := Option.map_eq_some_iff.mp hp
      exact henclosing f hf
  · rw [SyntaxTree.size_add]
    rcases List.mem_cons.mp hp with rfl | hp
    · exact Nat.lt_succ_self _
    · exact Nat.lt_succ_of_lt (hplaced p hp)
  · rw [SyntaxTree.size_add]
    exact Nat.lt_succ_of_lt (henclosing f hf)

theorem addLine_linked {tree : SyntaxTree} {masked : MaskedLine} (h : Linked tree)
    (henclosing : ∀ f ∈ enclosing, f.id < tree.size) :
    Yields (addLine tree line masked rest number enclosing) fun r =>
      Linked r.1 ∧ tree.size ≤ r.1.size ∧ ∀ f ∈ r.2, f.id < r.1.size := by
  refine .after fun cs _ => ?_
  have hplace : Yields ((cs.mergeSort Candidate.before).foldlM (place line rest number enclosing) (tree, []))
      (HasParents enclosing) :=
    Yields.foldlM (fun c _ state hstate => place_hasParents hstate) (tree, []) ⟨h, by simp, henclosing⟩
  refine .after fun state hstate => .ok ?_
  obtain ⟨hlinked, hplaced, -⟩ := hplace state hstate
  obtain ⟨-, es, hes, -⟩ := placeAll_added tree _ state hstate
  obtain ⟨hlink, hsize⟩ := link_linked state.2.reverse hlinked
  dsimp only
  refine ⟨hlink, ?_, fun f hf => ?_⟩
  · rw [hsize, ← SyntaxTree.length_entries state.1, hes, List.length_append, SyntaxTree.length_entries]
    exact Nat.le_add_right _ _
  · obtain ⟨p, hp, rfl⟩ := Option.map_eq_some_iff.mp hf
    rw [hsize]
    exact hplaced p (List.mem_of_find?_eq_some hp)

theorem buildFrom_linked {hash : Bool} {tree : SyntaxTree} {functions : List OpenFunction} {lines : List (List Char)}
    (h : Linked tree) (hfunctions : ∀ f ∈ functions, f.id < tree.size) :
    Yields (buildFrom hash tree functions number lines) Linked := by
  induction lines generalizing tree functions number with
  | nil => exact .ok h
  | cons line rest ih =>
    have hopen : ∀ f ∈ functions.dropWhile (·.endLine < number), f.id < tree.size :=
      fun f hf => hfunctions f ((List.dropWhile_sublist _).subset hf)
    rw [buildFrom]
    dsimp only
    split
    · exact ih h hopen
    · refine (addLine_linked h fun f hf => hopen f (List.mem_of_head? hf)).bind ?_
      rintro ⟨tree', opened⟩ ⟨hlinked, hsize, hopened⟩
      refine ih hlinked fun f hf => ?_
      rcases List.mem_append.mp hf with hf | hf
      · exact hopened f (Option.mem_toList.mp hf)
      · exact (hopen f hf).trans_le hsize

theorem linked_of_lines {hash : Bool} {lines : List (List Char)} {tree : SyntaxTree}
    (h : buildFrom hash .empty [] 1 lines = .ok tree) : Linked tree :=
  buildFrom_linked SyntaxTree.linked_empty (by simp) tree h

end SourceAudit.Outline
