import SourceAudit.Baseline
import SourceAudit.Proofs.Analysis.Semantics

/-!
# Where findings come from

* `Made ctx f` : the ways in which a query makes the finding `f`: from a flow, from a selected node, or from the hit
  of an older form of pattern;
* `made_of_mem_evaluate`, `made_of_mem_analyze` : there are no others;
* `Made.rule_eq` : every finding names the rule under which it was made.
-/

namespace SourceAudit

namespace Analysis

open Query (Expr NodeMatcher)

variable {ctx : Context} {f : Finding}

/-- The finding is made from a flow, a selected node or a hit in the file under analysis. -/
inductive Made (ctx : Context) : Finding → Prop where
  | flow {source sink : NodeMatcher} {sanitizers : List NodeMatcher} {flow : Taint.Flow} :
      flow ∈ Taint.flows ctx.options.risk [source] [sink] sanitizers ctx.tree → Made ctx (ctx.flowFinding flow)
  | selected {matcher : NodeMatcher} {reason : Option String} {m : Query.PatternMatch} :
      m ∈ Query.matchPattern ctx.confidence matcher reason ctx.tree → Made ctx (ctx.matchFinding m)
  | legacy {p : LegacyPattern} {hit : LegacyPattern.Hit} (pattern : String) :
      hit ∈ p.run ctx.tree ctx.content → Made ctx (ctx.legacyFinding pattern hit)

theorem mem_of_mem_intersectByLocation {lists : List (List Finding)} (h : f ∈ intersectByLocation lists) :
    ∃ fs ∈ lists, f ∈ fs := by
  cases lists with
  | nil => cases h
  | cons first others =>
    rw [intersectByLocation_cons] at h
    exact ⟨first, List.mem_cons_self, (List.mem_filter.mp h).1⟩

mutual

theorem made_of_mem_evaluate (ctx : Context) : ∀ (e : Expr), ∀ f ∈ (evaluate ctx e).findings, Made ctx f
  | .taint source sink sanitizers => by
    intro f hf
    rw [evaluate] at hf
    obtain ⟨flow, hflow, rfl⟩ := List.mem_map.mp hf
    exact .flow hflow
  | .pattern matcher reason => by
    intro f hf
    rw [evaluate] at hf
    obtain ⟨m, hm, rfl⟩ := List.mem_map.mp hf
    exact .selected hm
  | .logical .not _ => by
    rw [evaluate]
    exact fun f hf => absurd hf List.not_mem_nil
  | .logical .and es => by
    intro f hf
    rw [evaluate] at hf
    obtain ⟨fs, hfs, hf⟩ := mem_of_mem_intersectByLocation hf
    obtain ⟨report, hreport, rfl⟩ := List.mem_map.mp hfs
    exact made_of_mem_evaluateAll ctx es report hreport f hf
  | .logical .or es => by
    intro f hf
    rw [evaluate] at hf
    obtain ⟨report, hreport, hf⟩ := List.mem_flatMap.mp hf
    exact made_of_mem_evaluateAll ctx es report hreport f hf

theorem made_of_mem_evaluateAll (ctx : Context) :
    ∀ (es : List Expr), ∀ report ∈ evaluateAll ctx es, ∀ f ∈ report.findings, Made ctx f
  | [] => by
    rw [evaluateAll]
    exact fun report hreport => absurd hreport List.not_mem_nil
  | e :: es => by
    rw [evaluateAll]
    exact List.forall_mem_cons.mpr ⟨made_of_mem_evaluate ctx e, made_of_mem_evaluateAll ctx es⟩

end

theorem made_of_mem_runPattern {pattern : String} {report : Report} (h : runPattern ctx pattern = .ok report)
    (hf : f ∈ report.findings) : Made ctx f := by
  unfold runPattern at h
  split at h
  · split at h
    · cases h
      exact made_of_mem_evaluate ctx _ f hf
    · cases h
  · split at h
    · cases h
      obtain ⟨hit, hhit, rfl⟩ := List.mem_map.mp hf
      exact .legacy pattern hhit
    · cases h

theorem made_of_mem_patternReport {number : Nat} {p : RulePattern} (hf : f ∈ (patternReport ctx number p).findings) :
    Made ctx f := by
  unfold patternReport at hf
  split at hf
  · split at hf
    · rename_i hrun
      exact made_of_mem_runPattern hrun hf
    · cases hf
  · cases hf

theorem made_of_mem_analyze {options : AnalysisOptions} {file content : String} {tree : SyntaxTree} {rule : Rule}
    (hf : f ∈ (analyze options file content tree rule).findings) : Made ⟨options, file, content, tree, rule⟩ f := by
  obtain ⟨report, hreport, hf⟩ := List.mem_flatMap.mp hf
  obtain ⟨⟨p, number⟩, -, rfl⟩ := List.mem_map.mp hreport
  exact made_of_mem_patternReport hf

@[simp] theorem rule_withExtra (f : Finding) (key : String) (value : Json) :
    (f.withExtra key value).rule = f.rule := rfl

@[simp] theorem rule_withFallback (f : Finding) (recommendation : Option String) :
    (f.withFallback recommendation).rule = f.rule := by
  unfold Finding.withFallback
  split
  · split <;> rfl
  · rfl

/-- A finding names the rule under which it was made. -/
theorem Made.rule_eq (h : Made ctx f) : f.rule = ctx.rule.id := by
  cases h with
  | flow =>
    simp only [Context.flowFinding, rule_withExtra, rule_withFallback]
    rfl
  | selected => rfl
  | legacy =>
    unfold Context.legacyFinding
    dsimp only
    split <;> rfl

end Analysis

/-- A finding on a line names the rule that was compared with it. -/
theorem Baseline.rule_of_mem_analyze {confidence : Binary64} {context : Nat} {file content : String} {rule : Rule}
    {f : Finding} (hf : f ∈ (Baseline.analyze confidence context file content rule).findings) : f.rule = rule.id := by
  obtain ⟨⟨line, number⟩, -, h⟩ := List.mem_filterMap.mp hf
  obtain ⟨column, -, rfl⟩ := Option.map_eq_some_iff.mp h
  rfl

end SourceAudit
