import Mathlib.Data.Set.Lattice
import SourceAudit.Analysis
import SourceAudit.Proofs.Query.Selection

/-!
# Queries as sets of places

* `found ctx e` : the places of the findings of an expression;
* `outerNots e` : the number of NOTs of an expression that stand below no other NOT;
* `found_pattern`, `found_taint`, `found_or`, `found_and`, `found_not` : what each kind of expression finds;
* `evaluate_semantics` : OR, AND and NOT are union, intersection and nothing, with the findings of OR and AND in order
  and one warning for each outer NOT.
-/

namespace SourceAudit.Analysis

open Query (Expr NodeMatcher)

def found (ctx : Context) (e : Expr) : Set Location := {l | ∃ f ∈ (evaluate ctx e).findings, f.location = l}

mutual

/-- The number of NOTs that stand below no other NOT. -/
def outerNots : Expr → Nat
  | .taint .. => 0
  | .pattern .. => 0
  | .logical .not _ => 1
  | .logical .and operands => outerNotsAll operands
  | .logical .or operands => outerNotsAll operands

def outerNotsAll : List Expr → Nat
  | [] => 0
  | e :: es => outerNots e + outerNotsAll es

end

/-! ## Places of findings -/

@[simp] theorem location_withExtra (f : Finding) (key : String) (value : Json) :
    (f.withExtra key value).location = f.location := rfl

@[simp] theorem location_withFallback (f : Finding) (recommendation : Option String) :
    (f.withFallback recommendation).location = f.location := by
  unfold Finding.withFallback
  split
  · split_ifs <;> rfl
  · rfl

@[simp] theorem location_matchFinding (ctx : Context) (m : Query.PatternMatch) :
    (ctx.matchFinding m).location = m.location := rfl

@[simp] theorem location_flowFinding (ctx : Context) (flow : Taint.Flow) :
    (ctx.flowFinding flow).location = flow.sink.start := by
  unfold Context.flowFinding
  simp only [location_withExtra, location_withFallback]
  rfl

theorem mem_found (ctx : Context) (e : Expr) (l : Location) :
    l ∈ found ctx e ↔ ∃ f ∈ (evaluate ctx e).findings, f.location = l := Iff.rfl

/-! ## Leaves -/

theorem found_pattern (ctx : Context) (m : NodeMatcher) (reason : Option String) :
    found ctx (.pattern m reason) = {l | ∃ node ∈ ctx.tree.nodes, m.Selects node ∧ node.start = l} := by
  ext l
  rw [mem_found, evaluate]
  simp only [List.mem_map, exists_exists_and_eq_and, location_matchFinding, Query.matchPattern, List.mem_filterMap,
    Option.map_eq_some_iff, Array.mem_toList_iff]
  constructor
  · rintro ⟨_, ⟨node, hnode, spec, hspec, rfl⟩, rfl⟩
    exact ⟨node, hnode, (Query.ReadyMatcher.firstMatch?_isSome_iff m node).mp (by rw [hspec]; rfl), rfl⟩
  · rintro ⟨node, hnode, hselects, rfl⟩
    obtain ⟨spec, hspec⟩ :=
      Option.isSome_iff_exists.mp ((Query.ReadyMatcher.firstMatch?_isSome_iff m node).mpr hselects)
    exact ⟨_, ⟨node, hnode, spec, hspec, rfl⟩, rfl⟩

theorem found_taint (ctx : Context) (source sink : NodeMatcher) (sanitizers : List NodeMatcher) :
    found ctx (.taint source sink sanitizers) =
      {l | ∃ flow ∈ Taint.flows ctx.options.risk [source] [sink] sanitizers ctx.tree, flow.sink.start = l} := by
  ext l
  rw [mem_found, evaluate]
  simp only [List.mem_map, exists_exists_and_eq_and, location_flowFinding]
  rfl

/-! ## Operators -/

theorem evaluateAll_eq_map (ctx : Context) (es : List Expr) : evaluateAll ctx es = es.map (evaluate ctx) := by
  induction es with
  | nil => rw [evaluateAll, List.map_nil]
  | cons e es ih => rw [evaluateAll, ih, List.map_cons]

theorem findings_or (ctx : Context) (es : List Expr) :
    (evaluate ctx (.logical .or es)).findings = es.flatMap fun e => (evaluate ctx e).findings := by
  rw [evaluate, evaluateAll_eq_map, Report.concat, List.flatMap_map]

theorem found_or (ctx : Context) (es : List Expr) : found ctx (.logical .or es) = ⋃ e ∈ es, found ctx e := by
  ext l
  rw [mem_found, findings_or]
  simp only [List.mem_flatMap, Set.mem_iUnion, mem_found]
  constructor
  · rintro ⟨f, ⟨e, he, hf⟩, rfl⟩
    exact ⟨e, he, f, hf, rfl⟩
  · rintro ⟨e, he, f, hf, rfl⟩
    exact ⟨f, ⟨e, he, hf⟩, rfl⟩

/-- The early end at an empty list agrees with the search in every list. -/
theorem intersectByLocation_cons (first : List Finding) (others : List (List Finding)) :
    intersectByLocation (first :: others) =
      first.filter fun f => others.all fun fs => fs.any fun g => g.location = f.location := by
  unfold intersectByLocation
  split_ifs with h
  · symm
    rw [List.filter_eq_nil_iff]
    intro f hf
    obtain ⟨fs, hmem, hempty⟩ := List.any_eq_true.mp h
    rw [List.isEmpty_iff] at hempty
    subst hempty
    rcases List.mem_cons.mp hmem with rfl | hmem
    · cases hf
    · intro hall
      have := List.all_eq_true.mp hall [] hmem
      cases this
  · rfl

theorem findings_and_nil (ctx : Context) : (evaluate ctx (.logical .and [])).findings = [] := by
  rw [evaluate, evaluateAll]
  rfl

theorem findings_and (ctx : Context) (e : Expr) (es : List Expr) :
    (evaluate ctx (.logical .and (e :: es))).findings =
      (evaluate ctx e).findings.filter fun f =>
        es.all fun other => (evaluate ctx other).findings.any fun g => g.location = f.location := by
  rw [evaluate, evaluateAll_eq_map]
  simp only [List.map_cons, List.map_map, intersectByLocation_cons, List.all_map, Function.comp_def]

theorem found_and_nil (ctx : Context) : found ctx (.logical .and []) = ∅ := by
  ext l
  rw [mem_found, findings_and_nil]
  simp

theorem found_and (ctx : Context) {es : List Expr} (hes : es ≠ []) :
    found ctx (.logical .and es) = ⋂ e ∈ es, found ctx e := by
  obtain ⟨e, es, rfl⟩ := List.exists_cons_of_ne_nil hes
  have hothers : ∀ f : Finding,
      (es.all fun other => (evaluate ctx other).findings.any fun g => g.location = f.location) = true ↔
      ∀ other ∈ es, f.location ∈ found ctx other := by
    intro f
    simp only [List.all_eq_true, List.any_eq_true, decide_eq_true_eq, mem_found]
  ext l
  rw [mem_found, findings_and]
  simp only [List.mem_filter, hothers, Set.mem_iInter, List.forall_mem_cons]
  constructor
  · rintro ⟨f, ⟨hf, hall⟩, rfl⟩
    exact ⟨⟨f, hf, rfl⟩, hall⟩
  · rintro ⟨⟨f, hf, rfl⟩, hall⟩
    exact ⟨f, ⟨hf, hall⟩, rfl⟩

theorem found_not (ctx : Context) (es : List Expr) : found ctx (.logical .not es) = ∅ := by
  ext l
  rw [mem_found, evaluate]
  simp

/-! ## Warnings -/

mutual

theorem warnings_evaluate (ctx : Context) :
    ∀ e : Expr, (evaluate ctx e).warnings = List.replicate (outerNots e) (notWarning ctx.rule)
  | .taint .. => by rw [evaluate, outerNots]; rfl
  | .pattern .. => by rw [evaluate, outerNots]; rfl
  | .logical .not _ => by rw [evaluate, outerNots]; rfl
  | .logical .and es => by rw [evaluate, outerNots]; exact warnings_evaluateAll ctx es
  | .logical .or es => by rw [evaluate, outerNots]; exact warnings_evaluateAll ctx es

theorem warnings_evaluateAll (ctx : Context) :
    ∀ es : List Expr,
      (evaluateAll ctx es).flatMap (·.warnings) = List.replicate (outerNotsAll es) (notWarning ctx.rule)
  | [] => by rw [evaluateAll, outerNotsAll]; rfl
  | e :: es => by
    rw [evaluateAll, outerNotsAll, List.flatMap_cons, warnings_evaluate ctx e, warnings_evaluateAll ctx es,
      List.replicate_append_replicate]

end

/-- **A query is evaluated by the Boolean operations on places.** A matcher finds the nodes it selects and a TAINT the
sinks of its flows; OR is union, AND is intersection, which without operands is empty, and NOT finds nothing. AND
keeps, in order, the findings of its first operand at places that every other operand finds, OR puts the findings of
its operands one after the other, and there is one warning for each NOT that stands below no other. -/
theorem evaluate_semantics (ctx : Context) :
    (∀ m reason, found ctx (.pattern m reason) = {l | ∃ node ∈ ctx.tree.nodes, m.Selects node ∧ node.start = l}) ∧
    (∀ source sink sanitizers, found ctx (.taint source sink sanitizers) =
      {l | ∃ flow ∈ Taint.flows ctx.options.risk [source] [sink] sanitizers ctx.tree, flow.sink.start = l}) ∧
    (∀ es, found ctx (.logical .or es) = ⋃ e ∈ es, found ctx e) ∧
    (∀ es, found ctx (.logical .and es) = if es = [] then ∅ else ⋂ e ∈ es, found ctx e) ∧
    (∀ es, found ctx (.logical .not es) = ∅) ∧
    (∀ e es, (evaluate ctx (.logical .and (e :: es))).findings =
      (evaluate ctx e).findings.filter fun f =>
        es.all fun other => (evaluate ctx other).findings.any fun g => g.location = f.location) ∧
    (∀ es, (evaluate ctx (.logical .or es)).findings = es.flatMap fun e => (evaluate ctx e).findings) ∧
    ∀ e, (evaluate ctx e).warnings = List.replicate (outerNots e) (notWarning ctx.rule) := by
  refine ⟨found_pattern ctx, found_taint ctx, found_or ctx, fun es => ?_, found_not ctx, findings_and ctx,
    findings_or ctx, warnings_evaluate ctx⟩
  split_ifs with hes
  · rw [hes, found_and_nil]
  · exact found_and ctx hes

end SourceAudit.Analysis
