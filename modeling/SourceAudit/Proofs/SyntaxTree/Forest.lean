import Mathlib.Data.List.Nodup
import Mathlib.Data.List.Range
import SourceAudit.SyntaxTree

/-!
# Syntax trees are forests

Parents, children and roots of a tree say the same thing three times. This module shows that they agree after any calls.

* `Grown ids t` : calls on an empty tree made `t`, and those that added nodes gave the numbers `ids`;
* `Linked t` : the invariant; children and roots are read off the parents, and parents come before their children;
* `linked_add`, `Linked.sameShape`, `Grown.linked` : what one call keeps, and hence any calls;
* `Climb t id above` : the parents of `id`, up to a root, are `above`;
* `Linked.climb_ancestors` : `ancestors` climbs to a root, however far it is;
* `Forest t`, `grown_forest` : what follows for every tree that calls make.
-/

namespace SourceAudit

def SyntaxNode.bare (n : SyntaxNode) : SyntaxNode := { n with arguments := [], properties := {} }

namespace SyntaxTree

variable {t t' : SyntaxTree}

/-! ## Calls -/

/-- The trees that calls make of the empty tree, with the numbers of the nodes in the order in which they were added.
A parent is a node that was added before. -/
inductive Grown : List Nat → SyntaxTree → Prop where
  | empty : Grown [] empty
  | add {ids : List Nat} {t : SyntaxTree} (spec : NodeSpec) (parent : Option Nat) : Grown ids t →
      (∀ p ∈ parent, p ∈ ids) → Grown (ids ++ [t.size]) (t.add spec parent)
  | addArgument {ids : List Nat} {t : SyntaxTree} (call argument : Nat) : Grown ids t →
      Grown ids (t.addArgument call argument)
  | setProperty {ids : List Nat} {t : SyntaxTree} (id : Nat) (key : String) (target : Nat) : Grown ids t →
      Grown ids (t.setProperty id key target)

/-- Two trees differ in arguments and properties at most. -/
structure SameShape (t t' : SyntaxTree) : Prop where
  roots : t'.roots = t.roots
  nodes : ∀ i, (t'.get? i).map SyntaxNode.bare = (t.get? i).map SyntaxNode.bare

@[simp] theorem size_empty : empty.size = 0 := rfl

@[simp] theorem size_add (t : SyntaxTree) (spec : NodeSpec) (parent : Option Nat) :
    (t.add spec parent).size = t.size + 1 := by
  cases parent <;> simp [add, size]

theorem get?_eq_none_iff (t : SyntaxTree) (i : Nat) : t.get? i = none ↔ t.size ≤ i := Array.getElem?_eq_none_iff

theorem parent?_eq_getD (t : SyntaxTree) (i : Nat) : t.parent? i = ((t.get? i).map SyntaxNode.parent).getD none := by
  unfold parent?
  cases t.get? i <;> rfl

/-- A new node has the next number, and its parent one child more. -/
theorem get?_add (t : SyntaxTree) (spec : NodeSpec) (parent : Option Nat) (i : Nat) :
    (t.add spec parent).get? i =
      if i = t.size then some { spec with id := t.size, parent }
      else (t.get? i).map fun n => if parent = some i then { n with children := n.children ++ [t.size] } else n := by
  cases parent with
  | none => simp [add, get?, size, Array.getElem?_push]
  | some p =>
    simp only [add, get?, size, Array.getElem?_push, Array.size_modify, Array.getElem?_modify, Option.some.injEq]
    split_ifs with hi hp
    · rfl
    · rfl
    · simp

theorem sameShape_modify (t : SyntaxTree) (i : Nat) {f : SyntaxNode → SyntaxNode} (hf : ∀ n, (f n).bare = n.bare) :
    SameShape t { t with nodes := t.nodes.modify i f } := by
  refine ⟨rfl, fun j => ?_⟩
  simp only [get?, Array.getElem?_modify]
  split
  · simp [Option.map_map, Function.comp_def, hf]
  · rfl

theorem sameShape_addArgument (t : SyntaxTree) (call argument : Nat) : SameShape t (t.addArgument call argument) :=
  sameShape_modify t call fun _ => rfl

theorem sameShape_setProperty (t : SyntaxTree) (id : Nat) (key : String) (target : Nat) :
    SameShape t (t.setProperty id key target) := sameShape_modify t id fun _ => rfl

namespace SameShape

theorem size_eq (h : SameShape t t') : t'.size = t.size := by
  have hle (i : Nat) : t'.size ≤ i ↔ t.size ≤ i := by
    rw [← get?_eq_none_iff, ← get?_eq_none_iff, ← Option.map_eq_none_iff (f := SyntaxNode.bare), h.nodes,
      Option.map_eq_none_iff]
  have h₁ := hle t'.size
  have h₂ := hle t.size
  omega

/-- What does not look at arguments and properties is the same in both trees. -/
theorem map_eq {α : Type} (h : SameShape t t') (f : SyntaxNode → α) (hf : ∀ n, f n.bare = f n) (i : Nat) :
    (t'.get? i).map f = (t.get? i).map f := by
  have := congrArg (Option.map f) (h.nodes i)
  simpa [Option.map_map, Function.comp_def, hf] using this

theorem parent?_eq (h : SameShape t t') (i : Nat) : t'.parent? i = t.parent? i := by
  have := congrArg (Option.getD · none) (h.map_eq SyntaxNode.parent (fun _ => rfl) i)
  simpa [parent?_eq_getD] using this

theorem children_eq (h : SameShape t t') (i : Nat) : t'.children i = t.children i :=
  congrArg (Option.getD · []) (h.map_eq SyntaxNode.children (fun _ => rfl) i)

end SameShape

/-! ## The invariant -/

/-- Children and roots are read off the parents, and a parent has a smaller number than its children. -/
structure Linked (t : SyntaxTree) : Prop where
  id_eq : ∀ i, ∀ n ∈ t.get? i, n.id = i
  parent_lt : ∀ i, ∀ p ∈ t.parent? i, p < i
  children_eq : ∀ i, t.children i = (List.range t.size).filter fun c => t.parent? c = some i
  roots_eq : t.roots = (List.range t.size).filter fun c => t.parent? c = none

theorem linked_empty : Linked empty := by
  have hnone (i : Nat) : empty.get? i = none := (get?_eq_none_iff empty i).mpr (Nat.zero_le i)
  refine ⟨fun i n hn => ?_, fun i p hp => ?_, fun _ => rfl, rfl⟩
  · rw [hnone] at hn
    cases hn
  · rw [parent?, hnone] at hp
    cases hp

theorem Linked.sameShape (h : Linked t) (hs : SameShape t t') : Linked t' where
  id_eq i n hn := by
    have hmap := hs.map_eq SyntaxNode.id (fun _ => rfl) i
    rw [hn, Option.map_some, eq_comm, Option.map_eq_some_iff] at hmap
    obtain ⟨m, hm, hid⟩ := hmap
    rw [← hid, h.id_eq i m hm]
  parent_lt i p hp := h.parent_lt i p (hs.parent?_eq i ▸ hp)
  children_eq i := by simp only [hs.children_eq, hs.size_eq, hs.parent?_eq, h.children_eq]
  roots_eq := by simp only [hs.roots, hs.size_eq, hs.parent?_eq, h.roots_eq]

section Add

variable {spec : NodeSpec} {parent : Option Nat}

theorem parent?_add (t : SyntaxTree) (spec : NodeSpec) (parent : Option Nat) (i : Nat) :
    (t.add spec parent).parent? i = if i = t.size then parent else t.parent? i := by
  simp only [parent?, get?_add]
  split
  · rfl
  · cases t.get? i with
    | none => rfl
    | some n =>
      simp only [Option.map_some, Option.bind_some]
      split <;> rfl

theorem children_of_size_le {i : Nat} (h : t.size ≤ i) : t.children i = [] := by
  rw [children, (t.get?_eq_none_iff i).mpr h]
  rfl

theorem children_add (hp : ∀ p ∈ parent, p < t.size) (i : Nat) :
    (t.add spec parent).children i = if parent = some i then t.children i ++ [t.size] else t.children i := by
  simp only [children, get?_add]
  by_cases hi : i = t.size
  · have hne : parent ≠ some i := fun h => absurd (hp i h) (by omega)
    rw [if_pos hi, if_neg hne, (t.get?_eq_none_iff i).mpr hi.ge]
    rfl
  · rw [if_neg hi]
    cases hget : t.get? i with
    | none =>
      have hne : parent ≠ some i := fun h => absurd (hp i h) (not_lt.mpr ((t.get?_eq_none_iff i).mp hget))
      rw [if_neg hne]
      rfl
    | some n => split_ifs <;> simp_all

theorem roots_add (t : SyntaxTree) (spec : NodeSpec) (parent : Option Nat) :
    (t.add spec parent).roots = if parent = none then t.roots ++ [t.size] else t.roots := by
  cases parent <;> rfl

/-- The numbers of the nodes whose parent is `q`, before and after a node is added. -/
theorem filter_parent_add (t : SyntaxTree) (spec : NodeSpec) (parent q : Option Nat) :
    ((List.range (t.size + 1)).filter fun c => (t.add spec parent).parent? c = q) =
      ((List.range t.size).filter fun c => t.parent? c = q) ++ if parent = q then [t.size] else [] := by
  rw [List.range_succ, List.filter_append]
  congr 1
  · refine List.filter_congr fun c hc => ?_
    rw [parent?_add, if_neg (List.mem_range.mp hc).ne]
  · rw [List.filter_singleton, parent?_add, if_pos rfl]
    simp

theorem linked_add (h : Linked t) (hp : ∀ p ∈ parent, p < t.size) : Linked (t.add spec parent) where
  id_eq i n hn := by
    rw [get?_add] at hn
    split at hn
    · rename_i hi
      cases hn
      exact hi.symm
    · obtain ⟨m, hm, rfl⟩ := Option.map_eq_some_iff.mp hn
      have := h.id_eq i m hm
      split <;> exact this
  parent_lt i p hp' := by
    rw [parent?_add] at hp'
    split at hp'
    · rename_i hi
      exact hi ▸ hp p hp'
    · exact h.parent_lt i p hp'
  children_eq i := by
    rw [children_add hp, size_add, filter_parent_add, ← h.children_eq]
    split <;> simp
  roots_eq := by
    rw [roots_add, size_add, filter_parent_add, ← h.roots_eq]
    split <;> simp

end Add

/-- The numbers of the nodes are those below the size, and the links agree. -/
theorem Grown.linked {ids : List Nat} (h : Grown ids t) : ids = List.range t.size ∧ Linked t := by
  induction h with
  | empty => exact ⟨rfl, linked_empty⟩
  | @add ids t spec parent _ hp ih =>
    obtain ⟨rfl, hl⟩ := ih
    refine ⟨by rw [size_add, List.range_succ], linked_add hl fun p hmem => List.mem_range.mp (hp p hmem)⟩
  | @addArgument ids t call argument _ ih =>
    have hs := sameShape_addArgument t call argument
    exact ⟨hs.size_eq ▸ ih.1, ih.2.sameShape hs⟩
  | @setProperty ids t id key target _ ih =>
    have hs := sameShape_setProperty t id key target
    exact ⟨hs.size_eq ▸ ih.1, ih.2.sameShape hs⟩

/-! ## The way up -/

/-- The parent of a node, its parent and so on, up to a root. -/
inductive Climb (t : SyntaxTree) : Nat → List Nat → Prop where
  | root {id : Nat} : t.parent? id = none → Climb t id []
  | up {id p : Nat} {above : List Nat} : t.parent? id = some p → Climb t p above → Climb t id (p :: above)

theorem Climb.unique {id : Nat} {above above' : List Nat} (h : Climb t id above) (h' : Climb t id above') :
    above = above' := by
  induction h generalizing above' with
  | root hid =>
    cases h' with
    | root => rfl
    | up hid' => cases hid.symm.trans hid'
  | up hid _ ih =>
    cases h' with
    | root hid' => cases hid.symm.trans hid'
    | up hid' h' =>
      cases hid.symm.trans hid'
      rw [ih h']

theorem parent?_of_size_le {i : Nat} (h : t.size ≤ i) : t.parent? i = none := by
  rw [parent?, (t.get?_eq_none_iff i).mpr h]
  rfl

/-- As many steps as there are nodes lead to a root, and further ones change nothing. -/
theorem Linked.climb_ancestorsWithin (h : Linked t) {fuel id : Nat} (hfuel : id ≤ fuel ∨ t.size ≤ id) :
    Climb t id (t.ancestorsWithin fuel id) := by
  induction fuel generalizing id with
  | zero =>
    refine .root (Option.eq_none_iff_forall_not_mem.mpr fun p hp => ?_)
    rcases hfuel with hid | hid
    · have := h.parent_lt id p hp
      omega
    · rw [parent?_of_size_le hid] at hp
      cases hp
  | succ fuel ih =>
    rw [ancestorsWithin]
    cases hid : t.parent? id with
    | none => exact .root hid
    | some p =>
      have hp := h.parent_lt id p hid
      refine .up hid (ih (Or.inl ?_))
      rcases hfuel with hle | hle
      · omega
      · rw [parent?_of_size_le hle] at hid
        cases hid

theorem Linked.climb_ancestors (h : Linked t) (id : Nat) : Climb t id (t.ancestors id) :=
  h.climb_ancestorsWithin (by omega)

theorem Linked.ancestors_of_root (h : Linked t) {id : Nat} (hid : t.parent? id = none) : t.ancestors id = [] :=
  (h.climb_ancestors id).unique (.root hid)

theorem Linked.ancestors_of_child (h : Linked t) {id p : Nat} (hid : t.parent? id = some p) :
    t.ancestors id = p :: t.ancestors p :=
  (h.climb_ancestors id).unique (.up hid (h.climb_ancestors p))

theorem Linked.ancestorsWithin_eq (h : Linked t) {fuel : Nat} (hfuel : t.size ≤ fuel) (id : Nat) :
    t.ancestorsWithin fuel id = t.ancestors id :=
  (h.climb_ancestorsWithin (by omega)).unique (h.climb_ancestors id)

theorem Linked.climb_decreasing (h : Linked t) {id : Nat} {above : List Nat} (hc : Climb t id above) :
    (id :: above).Pairwise (· > ·) := by
  induction hc with
  | root => exact List.pairwise_singleton _ _
  | @up id p above hid _ ih =>
    have hp : id > p := h.parent_lt id p hid
    refine List.pairwise_cons.mpr ⟨List.forall_mem_cons.mpr ⟨hp, fun a ha => ?_⟩, ih⟩
    exact gt_trans hp ((List.pairwise_cons.mp ih).1 a ha)

theorem Linked.mem_roots (h : Linked t) (i : Nat) : i ∈ t.roots ↔ i < t.size ∧ t.parent? i = none := by
  rw [h.roots_eq, List.mem_filter, List.mem_range, decide_eq_true_eq]

theorem Linked.climb_root (h : Linked t) {id : Nat} {above : List Nat} (hc : Climb t id above) (hid : id < t.size) :
    ∃ r ∈ t.roots, (id :: above).getLast? = some r := by
  induction hc with
  | @root id hnone => exact ⟨id, (h.mem_roots id).mpr ⟨hid, hnone⟩, rfl⟩
  | @up id p above hp _ ih =>
    obtain ⟨r, hr, hlast⟩ := ih ((h.parent_lt id p hp).trans hid)
    exact ⟨r, hr, by rw [List.getLast?_cons_cons, hlast]⟩

/-! ## Forests -/

/-- The nodes of a tree form a forest, of which parents, children and roots give the same account. -/
structure Forest (t : SyntaxTree) : Prop where
  ids : t.nodes.toList.map (·.id) = List.range t.size
  parent_lt : ∀ i p, t.parent? i = some p → p < i
  mem_children : ∀ i p, i ∈ t.children p ↔ t.parent? i = some p
  /-- A node with a parent occurs once in all lists of children, and a root in none. -/
  count_children : ∀ i, (t.nodes.toList.flatMap (·.children)).count i = if (t.parent? i).isSome then 1 else 0
  children_increasing : ∀ p, (t.children p).Pairwise (· < ·)
  mem_roots : ∀ i, i ∈ t.roots ↔ i < t.size ∧ t.parent? i = none
  roots_increasing : t.roots.Pairwise (· < ·)
  ancestors_climb : ∀ id, Climb t id (t.ancestors id)
  ancestors_decreasing : ∀ id, (id :: t.ancestors id).Pairwise (· > ·)
  ancestors_root : ∀ id < t.size, ∃ r ∈ t.roots, (id :: t.ancestors id).getLast? = some r
  ancestors_of_root : ∀ r ∈ t.roots, t.ancestors r = []
  /-- The bound on the number of steps plays no part. -/
  ancestors_unbounded : ∀ fuel ≥ t.size, ∀ id, t.ancestorsWithin fuel id = t.ancestors id

theorem map_nodes {α : Type} (t : SyntaxTree) (f : SyntaxNode → α) (g : Nat → α)
    (h : ∀ i, ∀ n ∈ t.get? i, f n = g i) : t.nodes.toList.map f = (List.range t.size).map g := by
  refine List.ext_getElem (by simp [size]) fun i hi _ => ?_
  simp only [List.getElem_map, List.getElem_range, Array.getElem_toList]
  exact h i _ (Array.getElem?_eq_getElem (by simpa using hi))

theorem Linked.mem_children (h : Linked t) (i p : Nat) : i ∈ t.children p ↔ t.parent? i = some p := by
  rw [h.children_eq, List.mem_filter, List.mem_range, decide_eq_true_eq, and_iff_right_iff_imp]
  intro hp
  by_contra hi
  rw [parent?_of_size_le (not_lt.mp hi)] at hp
  cases hp

theorem Linked.children_increasing (h : Linked t) (p : Nat) : (t.children p).Pairwise (· < ·) := by
  rw [h.children_eq]
  exact List.pairwise_lt_range.filter _

theorem Linked.count_children (h : Linked t) (i : Nat) :
    (t.nodes.toList.flatMap (·.children)).count i = if (t.parent? i).isSome then 1 else 0 := by
  have hlists : t.nodes.toList.map (·.children) = (List.range t.size).map t.children :=
    map_nodes t _ _ fun i n hn => by rw [children, hn]; rfl
  rw [List.flatMap_def, hlists, ← List.flatMap_def]
  have hnodup : ((List.range t.size).flatMap t.children).Nodup := by
    refine List.nodup_flatMap.mpr ⟨fun p _ => (h.children_increasing p).imp ne_of_lt, ?_⟩
    refine List.nodup_range.imp fun hne c hc hc' => hne ?_
    -- a node in two lists has two parents
    rw [h.mem_children] at hc hc'
    exact Option.some.inj (hc.symm.trans hc')
  have hmem : i ∈ (List.range t.size).flatMap t.children ↔ (t.parent? i).isSome = true := by
    simp only [List.mem_flatMap, List.mem_range, h.mem_children, Option.isSome_iff_exists]
    refine exists_congr fun p => and_iff_right_of_imp fun hp => ?_
    by_contra hsize
    have := (h.mem_children i p).mpr hp
    rw [children_of_size_le (not_lt.mp hsize)] at this
    cases this
  rw [hnodup.count]
  simp only [hmem]

theorem Linked.forest (h : Linked t) : Forest t where
  ids := (map_nodes t _ id h.id_eq).trans (List.map_id _)
  parent_lt := h.parent_lt
  mem_children := h.mem_children
  count_children := h.count_children
  children_increasing := h.children_increasing
  mem_roots := h.mem_roots
  roots_increasing := by
    rw [h.roots_eq]
    exact List.pairwise_lt_range.filter _
  ancestors_climb := h.climb_ancestors
  ancestors_decreasing id := h.climb_decreasing (h.climb_ancestors id)
  ancestors_root id hid := h.climb_root (h.climb_ancestors id) hid
  ancestors_of_root r hr := (h.climb_ancestors r).unique (.root ((h.mem_roots r).mp hr).2)
  ancestors_unbounded _ hfuel id := h.ancestorsWithin_eq hfuel id

/-- **Every tree that calls make is a forest.** Nodes are numbered in the order in which they are added, and adding
arguments and properties changes nothing else. -/
theorem grown_forest {ids : List Nat} {t : SyntaxTree} (h : Grown ids t) :
    ids = List.range t.size ∧ Forest t ∧
      (∀ call argument, SameShape t (t.addArgument call argument)) ∧
      ∀ id key target, SameShape t (t.setProperty id key target) :=
  ⟨h.linked.1, h.linked.2.forest, sameShape_addArgument t, sameShape_setProperty t⟩

/-- A function with a call and its argument below it. -/
theorem call_below_function_forest :
    let function : NodeSpec := { kind := "Function", start := ⟨1, 1⟩, text := "def f(x): g(x)" }
    let call : NodeSpec := { kind := "Call", start := ⟨1, 11⟩, text := "g(x)" }
    let argument : NodeSpec := { kind := "Identifier", start := ⟨1, 13⟩, text := "x" }
    let t := (((empty.add function none).add call (some 0)).add argument (some 1)).addArgument 1 2
    Grown [0, 1, 2] (t.setProperty 0 "body" 1) ∧ Forest (t.setProperty 0 "body" 1) := by
  intro function call argument t
  have h : Grown [0, 1, 2] (t.setProperty 0 "body" 1) := by
    refine .setProperty 0 "body" 1 (.addArgument 1 2 (.add argument (some 1) (.add call (some 0) (.add function none
      .empty ?_) ?_) ?_)) <;> simp
  exact ⟨h, (grown_forest h).2.1⟩

end SyntaxTree

end SourceAudit
