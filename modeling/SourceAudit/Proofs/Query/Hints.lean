import SourceAudit.Proofs.Analysis.Semantics
import SourceAudit.Proofs.Query.Validation
import SourceAudit.Proofs.SortedMap

/-!
# What the hints say, and that no analysis depends on them

* `Part.ListsMatchers`, `Part.exists_matchers` : all matchers of a query, with their addresses, and how many patterns
  they have;
* `SharesKind`, `hasRepetition_directKinds` : two operands with a common node kind;
* `Query.Hints` : a hint that stands in the metadata, and what it says;
* `analyze_hinting` : an analysis with hints is one without them;
* `hints_exact` : what adding hints does to a query.
-/

namespace SourceAudit

namespace Query

/-! ## All matchers -/

namespace Part

/-- The list holds the matchers in a part, each once for every address that it has. -/
structure ListsMatchers (p : Part) (places : List (Address × NodeMatcher)) : Prop where
  once : (places.map Prod.fst).Nodup
  mem_iff : ∀ a m, (a, m) ∈ places ↔ p.Holds a (.matcher m)

def patternCount : Part → Nat
  | expression e => e.patternCount
  | matcher m => m.patterns.length

theorem patternCounts_eq (es : List Expr) : Expr.patternCounts es = es.foldr (fun e n => e.patternCount + n) 0 := by
  induction es with
  | nil => rw [Expr.patternCounts, List.foldr_nil]
  | cons e es ih => rw [Expr.patternCounts, ih, List.foldr_cons]

theorem patternCount_expression {e : Expr} {patterns : Segment × Part → List PatternSpec}
    (h : ∀ c ∈ (expression e).children, c.2.patternCount = (patterns c).length) :
    (expression e).patternCount = ((expression e).children.flatMap patterns).length := by
  have hnumbers {α : Type} (f : α → Nat) (xs : List α) : (xs.zipIdx.map fun x => f x.1) = xs.map f := by
    conv_rhs => rw [← List.zipIdx_map_fst 0 xs, List.map_map]
    rfl
  rw [List.length_flatMap, ← List.map_congr_left h]
  cases e with
  | taint source sink sanitizers =>
    rw [children, List.map_cons, List.map_cons, List.map_map, List.sum_cons, List.sum_cons, ← Nat.add_assoc]
    exact congrArg (source.patterns.length + sink.patterns.length + ·) (congrArg List.sum (hnumbers _ sanitizers).symm)
  | logical op operands =>
    have hcount : (expression (.logical op operands)).patternCount = Expr.patternCounts operands := rfl
    rw [hcount, patternCounts_eq, ← List.foldr_map, ← hnumbers, children, List.map_map]
    rfl
  | pattern m reason =>
    rw [children, List.map_singleton, List.sum_singleton]
    rfl

theorem holds_matcher_iff {m : NodeMatcher} {a : Address} {part : Part} :
    (matcher m).Holds a part ↔ a = [] ∧ part = matcher m := by
  constructor
  · intro h
    cases h with
    | here => exact ⟨rfl, rfl⟩
    | inside hchild => exact absurd hchild List.not_mem_nil
  · rintro ⟨rfl, rfl⟩
    exact .here _

theorem ListsMatchers.of_matcher (m : NodeMatcher) : (matcher m).ListsMatchers [([], m)] where
  once := List.nodup_singleton _
  mem_iff := by
    intro a m'
    rw [holds_matcher_iff, List.mem_singleton, Prod.mk.injEq, matcher.injEq]

theorem ListsMatchers.of_children {e : Expr} {places : Segment × Part → List (Address × NodeMatcher)}
    (h : ∀ c ∈ (expression e).children, c.2.ListsMatchers (places c)) :
    (expression e).ListsMatchers
    ((expression e).children.flatMap fun c => (places c).map fun x => (c.1 :: x.1, x.2)) where
  once := by
    rw [List.map_flatMap]
    refine List.pairwise_flatMap.mpr ⟨fun c hc => ?_, ?_⟩
    · rw [List.map_map]
      refine List.pairwise_map.mpr ((List.pairwise_map.mp (h c hc).once).imp fun hne heq => hne ?_)
      exact (List.cons.inj heq).2
    · refine (expression e).children_ordered.imp fun hrank a ha b hb heq => ?_
      rw [List.map_map] at ha hb
      obtain ⟨x, -, rfl⟩ := List.mem_map.mp ha
      obtain ⟨y, -, rfl⟩ := List.mem_map.mp hb
      rw [(List.cons.inj heq).1] at hrank
      exact absurd hrank (Nat.lt_irrefl _)
  mem_iff := by
    intro a m
    rw [List.mem_flatMap]
    constructor
    · rintro ⟨c, hc, hx⟩
      obtain ⟨⟨b, n⟩, hn, heq⟩ := List.mem_map.mp hx
      cases heq
      exact .inside hc (((h c hc).mem_iff b n).mp hn)
    · intro hholds
      cases hholds with
      | inside hchild hholds =>
        exact ⟨_, hchild, List.mem_map.mpr ⟨(_, m), ((h _ hchild).mem_iff _ m).mpr hholds, rfl⟩⟩

theorem exists_matchers (p : Part) :
    ∃ places, p.ListsMatchers places ∧ p.patternCount = (places.flatMap fun x => x.2.patterns).length := by
  induction p using Part.induct with
  | step p ih =>
    cases p with
    | matcher m => exact ⟨_, .of_matcher m, by rw [List.flatMap_singleton]; rfl⟩
    | expression e =>
      choose! places hplaces using ih
      refine ⟨_, .of_children fun c hc => (hplaces c hc).1, ?_⟩
      rw [patternCount_expression fun c hc => (hplaces c hc).2, List.flatMap_assoc]
      simp only [List.flatMap_map]

end Part

/-! ## Operands with a common kind -/

/-- Two operands, at different places, are plain patterns and share a node kind. -/
def SharesKind (operands : List Expr) : Prop :=
  ∃ (i j : Nat) (m n : NodeMatcher) (reason reason' : Option String) (kind : String), i < j ∧
    operands[i]? = some (.pattern m reason) ∧ operands[j]? = some (.pattern n reason') ∧ kind ∈ m.kinds.members ∧
    kind ∈ n.kinds.members

/-- The node kinds of a plain pattern. -/
def Expr.ownKinds : Expr → List String
  | .pattern m _ => m.kinds.members
  | _ => []

theorem Expr.mem_ownKinds {e : Expr} {kind : String} :
    kind ∈ e.ownKinds ↔ ∃ m reason, e = .pattern m reason ∧ kind ∈ m.kinds.members := by
  cases e <;> simp [ownKinds]

theorem directKinds_eq (es : List Expr) : Expr.directKinds es = es.flatMap Expr.ownKinds := by
  induction es with
  | nil => rfl
  | cons e es ih => cases e <;> simp [Expr.directKinds, Expr.ownKinds, ih]

theorem hasRepetition_iff (ss : List String) : Expr.hasRepetition ss = true ↔ ¬ss.Nodup := by
  induction ss with
  | nil => simp [Expr.hasRepetition]
  | cons s ss ih =>
    rw [Expr.hasRepetition, Bool.or_eq_true, List.contains_iff_mem, ih, List.nodup_cons]
    tauto

theorem Expr.nodup_ownKinds (e : Expr) : e.ownKinds.Nodup := by
  cases e with
  | pattern m reason => exact m.kinds.nodup
  | taint source sink sanitizers => exact List.nodup_nil
  | logical op operands => exact List.nodup_nil

/-- No operand lists a kind twice, so a kind that is listed twice is one of two operands. -/
theorem hasRepetition_directKinds (operands : List Expr) :
    Expr.hasRepetition (Expr.directKinds operands) = true ↔ SharesKind operands := by
  rw [hasRepetition_iff, directKinds_eq, List.nodup_flatMap, and_iff_right fun e _ => e.nodup_ownKinds,
    List.pairwise_iff_getElem]
  constructor
  · intro h
    by_contra hnone
    refine h fun i j hi hj hij kind hkind hkind' => hnone ?_
    obtain ⟨m, reason, hm, hkind⟩ := Expr.mem_ownKinds.mp hkind
    obtain ⟨n, reason', hn, hkind'⟩ := Expr.mem_ownKinds.mp hkind'
    exact ⟨i, j, m, n, reason, reason', kind, hij, hm ▸ List.getElem?_eq_getElem hi,
      hn ▸ List.getElem?_eq_getElem hj, hkind, hkind'⟩
  · rintro ⟨i, j, m, n, reason, reason', kind, hij, hm, hn, hkind, hkind'⟩ h
    obtain ⟨hi, hm⟩ := List.getElem?_eq_some_iff.mp hm
    obtain ⟨hj, hn⟩ := List.getElem?_eq_some_iff.mp hn
    refine h i j hi hj hij (a := kind) ?_ ?_
    · exact Expr.mem_ownKinds.mpr ⟨m, reason, hm, hkind⟩
    · exact Expr.mem_ownKinds.mpr ⟨n, reason', hn, hkind'⟩

end Query

/-! ## Analyses with and without hints -/

namespace Analysis

open Query (Expr)

/-- The same analysis with hints, or without them. -/
def Context.hinting (ctx : Context) (hints : Bool) : Context :=
  { ctx with options := { ctx.options with optimizerHints := hints } }

mutual

theorem evaluate_hinting (ctx : Context) (hints : Bool) : ∀ e : Expr, evaluate (ctx.hinting hints) e = evaluate ctx e
  | .taint .. => by rw [evaluate, evaluate]; rfl
  | .pattern .. => by rw [evaluate, evaluate]; rfl
  | .logical .not _ => by rw [evaluate, evaluate]; rfl
  | .logical .and es => by rw [evaluate, evaluate, evaluateAll_hinting ctx hints es]
  | .logical .or es => by rw [evaluate, evaluate, evaluateAll_hinting ctx hints es]

theorem evaluateAll_hinting (ctx : Context) (hints : Bool) :
    ∀ es : List Expr, evaluateAll (ctx.hinting hints) es = evaluateAll ctx es
  | [] => by rw [evaluateAll, evaluateAll]
  | e :: es => by rw [evaluateAll, evaluateAll, evaluate_hinting ctx hints e, evaluateAll_hinting ctx hints es]

end

/-- Whether a query can be run, and its expression, do not depend on the hints. -/
theorem prepare_expression (hints : Bool) (source : String) :
    (Query.prepare hints source).map Query.expression = (Query.prepare false source).map Query.expression := by
  unfold Query.prepare
  cases Query.parseQuery source with
  | error e => rfl
  | ok q =>
    dsimp only
    cases q.violations true with
    | nil => cases hints <;> rfl
    | cons v vs => rfl

/-- Of a query that is ready to run, only the expression matters. -/
theorem runPattern_of_query {pattern : String} (h : Query.looksLikeQuery pattern = true) (ctx : Context) :
    runPattern ctx pattern =
      (((Query.prepare ctx.options.optimizerHints pattern).map Query.expression).mapError
        Query.PrepareError.message).map (evaluate ctx) := by
  rw [runPattern, if_pos h]
  cases Query.prepare ctx.options.optimizerHints pattern <;> rfl

theorem runPattern_hinting (ctx : Context) (hints : Bool) (pattern : String) :
    runPattern (ctx.hinting hints) pattern = runPattern ctx pattern := by
  by_cases h : Query.looksLikeQuery pattern = true
  · have hevaluate : evaluate (ctx.hinting hints) = evaluate ctx := funext (evaluate_hinting ctx hints)
    rw [runPattern_of_query h, runPattern_of_query h, hevaluate,
      prepare_expression (ctx.hinting hints).options.optimizerHints, prepare_expression ctx.options.optimizerHints]
  · rw [runPattern, runPattern, if_neg h, if_neg h]
    rfl

end Analysis

theorem analyze_hinting (options : AnalysisOptions) (hints : Bool) (file content : String) (tree : SyntaxTree)
    (rule : Rule) :
    analyze { options with optimizerHints := hints } file content tree rule =
      analyze options file content tree rule := by
  have hpattern (number : Nat) (p : RulePattern) :
      Analysis.patternReport (Analysis.Context.hinting ⟨options, file, content, tree, rule⟩ hints) number p =
        Analysis.patternReport ⟨options, file, content, tree, rule⟩ number p := by
    unfold Analysis.patternReport
    rw [Analysis.runPattern_hinting]
    rfl
  unfold analyze
  exact congrArg Report.concat (List.map_congr_left fun x _ => hpattern x.2 x.1)

/-! ## Hints in the metadata -/

namespace Query

/-- A hint stands in the metadata, and it is true exactly if something is the case. -/
def Hints (q : Query) (key : String) (fact : Prop) : Prop :=
  ∃ value, q.metadata.get? key = some (.bool value) ∧ (value = true ↔ fact)

theorem get?_withHints (q : Query) (key : String) :
    q.withHints.metadata.get? key =
      if key = "batchSimilarPatterns" then some (.bool q.expression.hasSimilarOperands)
      else if key = "preferEarlyExit" then some (.bool q.expression.isConjunction)
      else if key = "useIndexing" then some (.bool (indexingThreshold ≤ q.expression.patternCount))
      else q.metadata.get? key := by
  rw [withHints, SortedMap.get?_insert, SortedMap.get?_insert, SortedMap.get?_insert]

theorem withHints_withHints (q : Query) : q.withHints.withHints = q.withHints := by
  have hindexing : "useIndexing" ≠ "preferEarlyExit" := by decide
  have hindexing' : "useIndexing" ≠ "batchSimilarPatterns" := by decide
  have hexit : "preferEarlyExit" ≠ "batchSimilarPatterns" := by decide
  unfold withHints
  dsimp only
  -- each second insertion is moved back to the first one under its key
  rw [SortedMap.insert_comm _ hindexing'.symm, SortedMap.insert_comm _ hindexing.symm, SortedMap.insert_insert,
    SortedMap.insert_comm _ hexit.symm, SortedMap.insert_insert, SortedMap.insert_insert]

theorem isConjunction_iff (e : Expr) : e.isConjunction = true ↔ ∃ operands, e = .logical .and operands := by
  unfold Expr.isConjunction
  split <;> simp_all

theorem hasSimilarOperands_iff (e : Expr) :
    e.hasSimilarOperands = true ↔ ∃ op operands, e = .logical op operands ∧ SharesKind operands := by
  cases e with
  | logical op operands =>
    rw [Expr.hasSimilarOperands, hasRepetition_directKinds]
    constructor
    · exact fun hshares => ⟨op, operands, rfl, hshares⟩
    · rintro ⟨op', operands', heq, hshares⟩
      cases heq
      exact hshares
  | taint source sink sanitizers => simp [Expr.hasSimilarOperands]
  | pattern m reason => simp [Expr.hasSimilarOperands]

/-- **Hints are right, and nothing depends on them.** To add hints changes neither the expression of a query nor
anything else in its metadata. An index is suggested from four patterns on, counted over all matchers of the
expression wherever they stand; an early exit if the outermost operator is AND; and batching if the expression is
logical and two of its operands are plain patterns that share a node kind. To add hints twice is to add them once. An
analysis with hints reports what one without them does. -/
theorem hints_exact (q : Query) :
    q.withHints.expression = q.expression ∧
    (∀ key, key ≠ "useIndexing" → key ≠ "preferEarlyExit" → key ≠ "batchSimilarPatterns" →
      q.withHints.metadata.get? key = q.metadata.get? key) ∧
    (∃ places, (Part.expression q.expression).ListsMatchers places ∧
      q.withHints.Hints "useIndexing" (4 ≤ (places.flatMap fun x => x.2.patterns).length)) ∧
    q.withHints.Hints "preferEarlyExit" (∃ operands, q.expression = .logical .and operands) ∧
    q.withHints.Hints "batchSimilarPatterns"
      (∃ op operands, q.expression = .logical op operands ∧ SharesKind operands) ∧
    q.withHints.withHints = q.withHints ∧
    ∀ (options : AnalysisOptions) file content tree rule,
      analyze { options with optimizerHints := true } file content tree rule =
        analyze { options with optimizerHints := false } file content tree rule := by
  refine ⟨rfl, fun key hindexing hexit hbatch => ?_, ?_, ⟨_, get?_withHints q _, isConjunction_iff _⟩,
    ⟨_, get?_withHints q _, hasSimilarOperands_iff _⟩, withHints_withHints q, fun options file content tree rule => ?_⟩
  · rw [get?_withHints, if_neg hbatch, if_neg hexit, if_neg hindexing]
  · obtain ⟨places, hplaces, hcount⟩ := (Part.expression q.expression).exists_matchers
    refine ⟨places, hplaces, _, get?_withHints q _, ?_⟩
    rw [decide_eq_true_iff, ← hcount]
    rfl
  · rw [analyze_hinting options true, analyze_hinting options false]

/-- A query in which two operands share a kind and a third, below NOT, has the same kind but is no plain pattern. -/
theorem hints_exact_of_shared_kind :
    ∃ q, parseQuery "OR(\x7bB: a\x7d, NOT(\x7bB: b\x7d), \x7bC|B: [c, d]\x7d)" = .ok q ∧
      (∃ op operands, q.expression = .logical op operands ∧ SharesKind operands) ∧
      ¬(∃ operands, q.expression = .logical .and operands) ∧
      ∃ places, (Part.expression q.expression).ListsMatchers places ∧
        4 ≤ (places.flatMap fun x => x.2.patterns).length := by
  have hhints : (parseQuery "OR(\x7bB: a\x7d, NOT(\x7bB: b\x7d), \x7bC|B: [c, d]\x7d)").toOption.map (fun q =>
      (q.expression.patternCount, q.expression.isConjunction, q.expression.hasSimilarOperands)) =
        some (4, false, true) := by
    decide +kernel
  cases hq : parseQuery "OR(\x7bB: a\x7d, NOT(\x7bB: b\x7d), \x7bC|B: [c, d]\x7d)" with
  | error e =>
    rw [hq] at hhints
    cases hhints
  | ok q =>
    rw [hq] at hhints
    obtain ⟨hcount, hexit, hbatch⟩ : q.expression.patternCount = 4 ∧ q.expression.isConjunction = false ∧
        q.expression.hasSimilarOperands = true := by
      have heq : (q.expression.patternCount, q.expression.isConjunction, q.expression.hasSimilarOperands) =
          (4, false, true) :=
        Option.some.inj hhints
      simpa using heq
    obtain ⟨-, -, ⟨places, hplaces, indexing, hindexing, hindexing'⟩, ⟨exit, hexit', hand⟩,
      ⟨batch, hbatch', hshares⟩, -⟩ := hints_exact q
    rw [get?_withHints] at hindexing hexit' hbatch'
    simp only [hcount, hexit, hbatch] at hindexing hexit' hbatch'
    cases hindexing
    cases hexit'
    cases hbatch'
    exact ⟨q, rfl, hshares.mp rfl, fun h => absurd (hand.mpr h) (by simp), places, hplaces, hindexing'.mp rfl⟩

end Query

end SourceAudit
