import Mathlib.Data.List.FinRange
import Mathlib.Data.List.Pairwise
import Mathlib.Data.List.ProdSigma
import SourceAudit.Proofs.Location
import SourceAudit.Proofs.Query.Selection
import SourceAudit.Taint.Flow

/-!
# Flows are the unsanitized forward pairs

* `Flows sources sinks sanitizers tree s k` : `s` is a source, `k` a sink on its line or a later one, and no sanitizer
  stands strictly between them;
* `isSanitized_iff` : among places in order, the first one after the start decides whether any lies between;
* `classify_antitone` : under ascending thresholds, which are the only ones kept, a longer way never has a higher risk;
* `flows_exact` : the flows of a tree are its unsanitized forward pairs, in order and each once.
-/

namespace SourceAudit.Taint

open Query (NodeMatcher)

/-! ## Risk -/

theorem isMonotonic_kept (t : RiskThresholds) : t.kept.isMonotonic = true := by
  unfold RiskThresholds.kept
  split_ifs with h
  · exact h
  · rfl

theorem classify_antitone {t : RiskThresholds} (ht : t.isMonotonic = true) {d e : Nat} (h : d ≤ e) :
    (t.classify e).rank ≤ (t.classify d).rank := by
  unfold RiskThresholds.isMonotonic at ht
  rw [Bool.and_eq_true, decide_eq_true_iff, decide_eq_true_iff] at ht
  obtain ⟨hhigh, hmedium⟩ := ht
  unfold RiskThresholds.classify
  split_ifs <;> simp only [RiskLevel.rank] <;> omega

/-! ## Sanitizers between two places -/

/-- The places are ascending; equal ones may follow each other. -/
def Ascending (places : List Location) : Prop := places.Pairwise fun a b => a.pos ≤ b.pos

theorem ascending_mergeSort (places : List Location) :
    Ascending (places.mergeSort fun a b => !b.precedes a) := by
  have hle : ∀ a b : Location, (!b.precedes a) = true ↔ a.pos ≤ b.pos := by
    intro a b
    rw [Bool.not_eq_true', ← Bool.not_eq_true, Location.precedes_iff, not_lt]
  have hsorted := @List.pairwise_mergeSort _ (fun a b => !b.precedes a)
    (fun a b c hab hbc => (hle a c).mpr (((hle a b).mp hab).trans ((hle b c).mp hbc)))
    (fun a b => by
      rw [Bool.or_eq_true, hle, hle]
      exact le_total _ _) places
  exact hsorted.imp fun {a b} h => (hle a b).mp h

theorem isSanitized_iff {places : List Location} (h : Ascending places) (a b : Location) :
    isSanitized places a b = true ↔ ∃ p ∈ places, min a.pos b.pos < p.pos ∧ p.pos < max a.pos b.pos := by
  rw [← Location.pos_earlier, ← Location.pos_later, isSanitized]
  cases hfind : places.find? fun p => (a.earlier b).precedes p with
  | none =>
    refine iff_of_false nofun ?_
    rintro ⟨p, hp, hlt, -⟩
    exact List.find?_eq_none.mp hfind p hp ((Location.precedes_iff _ _).mpr hlt)
  | some p =>
    obtain ⟨hp, before, after, rfl, hbefore⟩ := List.find?_eq_some_iff_append.mp hfind
    rw [Location.precedes_iff] at hp
    show p.precedes (a.later b) = true ↔ _
    rw [Location.precedes_iff]
    constructor
    · intro hlt
      exact ⟨p, by simp, hp, hlt⟩
    · rintro ⟨q, hq, hlt, hgt⟩
      -- a place between the two comes no earlier than the first one after the start
      rcases List.mem_append.mp hq with hq | hq
      · have := hbefore q hq
        rw [(Location.precedes_iff _ _).mpr hlt] at this
        cases this
      · rcases List.mem_cons.mp hq with rfl | hq
        · exact hgt
        · obtain ⟨-, hrest, -⟩ := List.pairwise_append.mp h
          exact lt_of_le_of_lt ((List.pairwise_cons.mp hrest).1 q hq) hgt

/-! ## Flows -/

theorem any_selects_iff (matchers : List NodeMatcher) (node : SyntaxNode) :
    ((matchers.map NodeMatcher.ready).any fun m => m.selects node) = true ↔ ∃ m ∈ matchers, m.Selects node := by
  rw [List.any_eq_true]
  simp only [List.mem_map, exists_exists_and_eq_and, Query.ReadyMatcher.selects_iff]

theorem mem_selected_iff (matchers : List NodeMatcher) (tree : SyntaxTree) (node : SyntaxNode) :
    node ∈ selected matchers tree ↔ node ∈ tree.nodes ∧ ∃ m ∈ matchers, m.Selects node := by
  unfold selected
  rw [List.mem_filter, Array.mem_toList_iff, any_selects_iff]

/-- `s` is a source, `k` is a sink on the line of `s` or a later one, and no sanitizer stands strictly between the
two. -/
structure Flows (sources sinks sanitizers : List NodeMatcher) (tree : SyntaxTree) (s k : SyntaxNode) : Prop where
  source : ∃ m ∈ sources, m.Selects s
  sink : ∃ m ∈ sinks, m.Selects k
  forward : s.start.line ≤ k.start.line
  unsanitized : ¬ ∃ z ∈ tree.nodes, (∃ m ∈ sanitizers, m.Selects z) ∧
    min s.start.pos k.start.pos < z.start.pos ∧ z.start.pos < max s.start.pos k.start.pos

/-- The test that the double loop makes of a pair of nodes. -/
def isFlow (places : List Location) (sources sinks : List NodeMatcher) (s k : SyntaxNode) : Bool :=
  ((sources.map NodeMatcher.ready).any fun m => m.selects s) &&
    (((sinks.map NodeMatcher.ready).any fun m => m.selects k) &&
      (s.start.line ≤ k.start.line && !isSanitized places s.start k.start))

theorem isFlow_iff (sources sinks sanitizers : List NodeMatcher) (tree : SyntaxTree) (s k : SyntaxNode) :
    isFlow (((selected sanitizers tree).map (·.start)).mergeSort fun a b => !b.precedes a) sources sinks s k = true ↔
      Flows sources sinks sanitizers tree s k := by
  have hbetween : (!isSanitized (((selected sanitizers tree).map (·.start)).mergeSort fun a b => !b.precedes a)
      s.start k.start) = true ↔ ¬ ∃ z ∈ tree.nodes, (∃ m ∈ sanitizers, m.Selects z) ∧
        min s.start.pos k.start.pos < z.start.pos ∧ z.start.pos < max s.start.pos k.start.pos := by
    rw [Bool.not_eq_true', ← Bool.not_eq_true, isSanitized_iff (ascending_mergeSort _)]
    simp only [List.mem_mergeSort, List.mem_map, mem_selected_iff]
    refine not_congr ⟨?_, ?_⟩
    · rintro ⟨_, ⟨z, ⟨hz, hm⟩, rfl⟩, hp⟩
      exact ⟨z, hz, hm, hp⟩
    · rintro ⟨z, hz, hm, hp⟩
      exact ⟨_, ⟨z, ⟨hz, hm⟩, rfl⟩, hp⟩
  rw [isFlow, Bool.and_eq_true, Bool.and_eq_true, Bool.and_eq_true, any_selects_iff, any_selects_iff,
    decide_eq_true_iff, hbetween]
  exact ⟨fun ⟨h₁, h₂, h₃, h₄⟩ => ⟨h₁, h₂, h₃, h₄⟩, fun ⟨h₁, h₂, h₃, h₄⟩ => ⟨h₁, h₂, h₃, h₄⟩⟩

section Pairs
variable {α β γ : Type}

/-- A double loop with tests visits the pairs that pass them, in the order of the first list and then of the second. -/
theorem flatMap_filter_eq_product (p : α → Bool) (q : β → Bool) (r : α → β → Bool) (f : α → β → γ) (as : List α)
    (bs : List β) :
    ((as.filter p).flatMap fun a => ((bs.filter q).filter (r a)).map (f a)) =
      ((as ×ˢ bs).filter fun x => p x.1 && (q x.2 && r x.1 x.2)).map fun x => f x.1 x.2 := by
  induction as with
  | nil => rfl
  | cons a as ih =>
    rw [List.product_cons, List.filter_append, List.map_append, ← ih, List.filter_map, List.map_map]
    by_cases ha : p a = true
    · rw [List.filter_cons_of_pos ha, List.flatMap_cons, List.filter_filter]
      congr 1
      simp [Function.comp_def, ha, Bool.and_comm]
    · rw [List.filter_cons_of_neg ha]
      simp [Function.comp_def, ha]

theorem toList_eq_map_finRange (xs : Array α) : xs.toList = (List.finRange xs.size).map fun i => xs[i] := by
  rw [← List.ofFn_eq_map, ← Array.toList_ofFn]
  exact congrArg Array.toList Array.ofFn_getElem.symm

theorem pairwise_product_finRange (n m : Nat) :
    (List.finRange n ×ˢ List.finRange m).Pairwise fun p q => toLex p < toLex q := by
  rw [show List.finRange n ×ˢ List.finRange m = (List.finRange n).flatMap fun i =>
    (List.finRange m).map (Prod.mk i) from rfl, List.pairwise_flatMap]
  refine ⟨fun i _ => List.pairwise_map.mpr ((List.pairwise_lt_finRange m).imp fun h => ?_),
    (List.pairwise_lt_finRange n).imp fun h p hp q hq => ?_⟩
  · exact Prod.Lex.toLex_lt_toLex.mpr (Or.inr ⟨rfl, h⟩)
  · obtain ⟨j, -, rfl⟩ := List.mem_map.mp hp
    obtain ⟨j', -, rfl⟩ := List.mem_map.mp hq
    exact Prod.Lex.toLex_lt_toLex.mpr (Or.inl h)

end Pairs

/-- The flows as the pairs of numbers of nodes that pass the test. -/
theorem flows_eq (t : RiskThresholds) (sources sinks sanitizers : List NodeMatcher) (tree : SyntaxTree) :
    flows t sources sinks sanitizers tree =
      (((List.finRange tree.nodes.size ×ˢ List.finRange tree.nodes.size).filter fun x =>
        isFlow (((selected sanitizers tree).map (·.start)).mergeSort fun a b => !b.precedes a) sources sinks
          tree.nodes[x.1] tree.nodes[x.2]).map fun x => Flow.between t.kept tree.nodes[x.1] tree.nodes[x.2]) := by
  have hselected : ∀ ms, selected ms tree = ((List.finRange tree.nodes.size).filter fun i =>
      (ms.map NodeMatcher.ready).any fun m => m.selects tree.nodes[i]).map fun i => tree.nodes[i] := by
    intro ms
    rw [selected, toList_eq_map_finRange, List.filter_map]
    rfl
  simp only [flows]
  rw [hselected sources, List.flatMap_map]
  simp only [hselected sinks, List.filter_map, List.map_map]
  exact flatMap_filter_eq_product _ _ _ _ _ _

theorem mem_flows_iff (t : RiskThresholds) (sources sinks sanitizers : List NodeMatcher) (tree : SyntaxTree)
    (f : Flow) :
    f ∈ flows t sources sinks sanitizers tree ↔
      ∃ i j : Fin tree.nodes.size, Flows sources sinks sanitizers tree tree.nodes[i] tree.nodes[j] ∧
        f = Flow.between t.kept tree.nodes[i] tree.nodes[j] := by
  rw [flows_eq, List.mem_map]
  constructor
  · rintro ⟨⟨i, j⟩, hp, rfl⟩
    exact ⟨i, j, (isFlow_iff _ _ _ _ _ _).mp (List.mem_filter.mp hp).2, rfl⟩
  · rintro ⟨i, j, h, rfl⟩
    refine ⟨(i, j), List.mem_filter.mpr ⟨?_, (isFlow_iff _ _ _ _ _ _).mpr h⟩, rfl⟩
    exact List.mem_product.mpr ⟨List.mem_finRange i, List.mem_finRange j⟩

theorem distance_of_mem_flows {t : RiskThresholds} {sources sinks sanitizers : List NodeMatcher} {tree : SyntaxTree}
    {f : Flow} (hf : f ∈ flows t sources sinks sanitizers tree) :
    f.source.start.line + f.distance = f.sink.start.line ∧ f.risk = t.kept.classify f.distance := by
  obtain ⟨i, j, h, rfl⟩ := (mem_flows_iff _ _ _ _ _ _).mp hf
  exact ⟨Nat.add_sub_of_le h.forward, rfl⟩

/-- **The flows of a tree are its unsanitized forward pairs.** They come by the number of the source and then by that
of the sink, each pair once. The distance of a flow is the number of lines from its source to its sink, its risk is
that of the distance under the kept thresholds, and over all runs with the same thresholds a shorter flow never has a
lower risk. -/
theorem flows_exact (t : RiskThresholds) (sources sinks sanitizers : List NodeMatcher) (tree : SyntaxTree) :
    (∃ pairs : List (Fin tree.nodes.size × Fin tree.nodes.size),
      pairs.Pairwise (fun p q => toLex p < toLex q) ∧
      (∀ p, p ∈ pairs ↔ Flows sources sinks sanitizers tree tree.nodes[p.1] tree.nodes[p.2]) ∧
      flows t sources sinks sanitizers tree =
        pairs.map fun p => Flow.between t.kept tree.nodes[p.1] tree.nodes[p.2]) ∧
    (∀ f ∈ flows t sources sinks sanitizers tree,
      f.source.start.line + f.distance = f.sink.start.line ∧ f.risk = t.kept.classify f.distance) ∧
    ∀ (sources' sinks' sanitizers' : List NodeMatcher) (tree' : SyntaxTree),
      ∀ f ∈ flows t sources sinks sanitizers tree, ∀ g ∈ flows t sources' sinks' sanitizers' tree',
        f.distance ≤ g.distance → g.risk.rank ≤ f.risk.rank := by
  refine ⟨⟨_, (pairwise_product_finRange _ _).filter _, fun p => ?_, flows_eq t sources sinks sanitizers tree⟩,
    fun f hf => distance_of_mem_flows hf, fun sources' sinks' sanitizers' tree' f hf g hg hle => ?_⟩
  · rw [List.mem_filter, isFlow_iff]
    exact and_iff_right (List.mem_product.mpr ⟨List.mem_finRange p.1, List.mem_finRange p.2⟩)
  · rw [(distance_of_mem_flows hf).2, (distance_of_mem_flows hg).2]
    exact classify_antitone (isMonotonic_kept t) hle

end SourceAudit.Taint
