import SourceAudit.Proofs.Analysis.Semantics

/-!
# Patterns of a rule do not affect each other

* `Rule.only rule p` : the rule with the pattern `p` alone;
* `Refused pattern message` : the pattern cannot be run, for one of three reasons, which `message` words;
* `skipWarning`, `renumber` : the warning about a pattern that is skipped, and the same warning about another number;
* `evaluate_only`, `runPattern_only` : a query finds the same whatever other patterns its rule has;
* `runPattern_error_iff` : a pattern fails exactly if it is refused;
* `analyze_by_pattern` : the report of a rule is put together from those of its patterns alone.
-/

namespace SourceAudit

def Rule.only (rule : Rule) (p : RulePattern) : Rule := { rule with patterns := [p] }

namespace Analysis

open Query (Expr)

variable {ctx : Context} {rule : Rule} {p : RulePattern}

/-- The same file under analysis by the rule with one pattern alone. -/
def Context.only (ctx : Context) (p : RulePattern) : Context := { ctx with rule := ctx.rule.only p }

/-! ## Other patterns -/

mutual

theorem evaluate_only (ctx : Context) (p : RulePattern) : ∀ e : Expr, evaluate (ctx.only p) e = evaluate ctx e
  | .taint .. => by rw [evaluate, evaluate]; rfl
  | .pattern .. => by rw [evaluate, evaluate]; rfl
  | .logical .not _ => by rw [evaluate, evaluate]; rfl
  | .logical .and es => by rw [evaluate, evaluate, evaluateAll_only ctx p es]
  | .logical .or es => by rw [evaluate, evaluate, evaluateAll_only ctx p es]

theorem evaluateAll_only (ctx : Context) (p : RulePattern) :
    ∀ es : List Expr, evaluateAll (ctx.only p) es = evaluateAll ctx es
  | [] => by rw [evaluateAll, evaluateAll]
  | e :: es => by rw [evaluateAll, evaluateAll, evaluate_only ctx p e, evaluateAll_only ctx p es]

end

theorem runPattern_only (ctx : Context) (p : RulePattern) (pattern : String) :
    runPattern (ctx.only p) pattern = runPattern ctx pattern := by
  unfold runPattern
  simp only [evaluate_only]
  rfl

/-! ## Patterns that cannot be run -/

/-- The pattern cannot be run: it is taken for a query and cannot be read, it is a query that makes no sense, or it is
taken for an older form and is none. -/
inductive Refused (pattern : String) : (message : String) → Prop where
  | unreadable {e : Query.SyntaxError} : Query.looksLikeQuery pattern = true → Query.parseQuery pattern = .error e →
      Refused pattern e.message
  | invalid {q : Query} : Query.looksLikeQuery pattern = true → Query.parseQuery pattern = .ok q →
      q.violations true ≠ [] →
      Refused pattern ("invalid query: " ++ "; ".intercalate ((q.violations true).map Query.Located.message))
  | unrecognized {e : LegacyPattern.ParseError} : Query.looksLikeQuery pattern = false →
      LegacyPattern.parse pattern = .error e → Refused pattern e.message

theorem runPattern_error_iff (ctx : Context) (pattern message : String) :
    runPattern ctx pattern = .error message ↔ Refused pattern message := by
  unfold runPattern Query.prepare
  constructor
  · intro h
    split at h
    · rename_i hquery
      cases hparse : Query.parseQuery pattern with
      | error e =>
        simp only [hparse] at h
        cases h
        exact .unreadable hquery hparse
      | ok q =>
        simp only [hparse] at h
        cases hv : q.violations true with
        | nil => simp [hv] at h
        | cons v vs =>
          simp only [hv] at h
          cases h
          have := Refused.invalid hquery hparse (by simp [hv])
          rwa [hv] at this
    · rename_i hquery
      cases hparse : LegacyPattern.parse pattern with
      | error e =>
        simp only [hparse] at h
        cases h
        exact .unrecognized (Bool.eq_false_iff.mpr hquery) hparse
      | ok q => simp [hparse] at h
  · intro h
    cases h with
    | unreadable hquery hparse => simp only [hquery, hparse, if_true]; rfl
    | @invalid q hquery hparse hv =>
      obtain ⟨v, vs, hvs⟩ := List.exists_cons_of_ne_nil hv
      simp only [hquery, hparse, hvs, if_true]
      rfl
    | unrecognized hquery hparse => simp [hquery, hparse]

/-! ## Warnings -/

/-- How a warning about a skipped pattern starts. -/
def skipLead (rule : Rule) (number : Nat) : String := s!"rule {rule.id}: skipping pattern {number}: "

def skipWarning (rule : Rule) (number : Nat) (message : String) : String := skipLead rule number ++ message

/-- The same warning about another pattern: where it says that pattern 1 is skipped, it names another number. -/
def renumber (rule : Rule) (number : Nat) (warning : String) : String :=
  let lead := (skipLead rule 1).toList
  if lead.isPrefixOf warning.toList then skipWarning rule number (String.ofList (warning.toList.drop lead.length))
  else warning

theorem renumber_skipWarning (rule : Rule) (number : Nat) (message : String) :
    renumber rule number (skipWarning rule 1 message) = skipWarning rule number message := by
  have hlead : (skipLead rule 1).toList.isPrefixOf (skipWarning rule 1 message).toList = true := by
    rw [List.isPrefixOf_iff_prefix, skipWarning, String.toList_append]
    exact List.prefix_append _ _
  have hrest : (skipWarning rule 1 message).toList.drop (skipLead rule 1).toList.length = message.toList := by
    rw [skipWarning, String.toList_append, List.drop_left]
  unfold renumber
  simp only [hlead, if_true, hrest, String.ofList_toList]

theorem renumber_of_ne {warning : String} (h : ∀ message, warning ≠ skipWarning rule 1 message) (number : Nat) :
    renumber rule number warning = warning := by
  unfold renumber
  dsimp only
  split
  · rename_i hlead
    obtain ⟨rest, hrest⟩ := List.isPrefixOf_iff_prefix.mp hlead
    refine absurd ?_ (h (String.ofList rest))
    rw [← String.toList_inj, skipWarning, String.toList_append, String.toList_ofList, hrest]
  · rfl

/-- The warning about NOT says nothing about a skipped pattern. -/
theorem notWarning_ne_skipWarning (rule : Rule) (number : Nat) (message : String) :
    notWarning rule ≠ skipWarning rule number message := by
  intro h
  have hlist := congrArg String.toList h
  simp only [notWarning, skipWarning, skipLead, toString, String.toList_append, List.append_assoc] at hlist
  have htail := List.append_cancel_left (List.append_cancel_left hlist)
  exact absurd (congrArg (fun cs : List Char => cs[2]?) htail) (by simp)

/-! ## Single patterns -/

theorem patternReport_query (ctx : Context) (number : Nat) (hp : p.kind = .query) :
    patternReport ctx number p =
      match runPattern ctx p.value with
      | .ok report => report
      | .error message => ⟨[], [skipWarning ctx.rule number message]⟩ := by
  unfold patternReport
  rw [hp]
  rfl

theorem patternReport_of_ne_query (ctx : Context) (number : Nat) (hp : p.kind ≠ .query) :
    patternReport ctx number p = {} := by
  unfold patternReport
  split
  · contradiction
  · rfl

/-- A pattern that runs gives no warning but those about NOT. -/
theorem warnings_runPattern {pattern : String} {report : Report} (h : runPattern ctx pattern = .ok report) :
    ∀ w ∈ report.warnings, w = notWarning ctx.rule := by
  intro w hw
  unfold runPattern at h
  split at h
  · split at h
    · cases h
      rw [warnings_evaluate] at hw
      exact List.eq_of_mem_replicate hw
    · cases h
  · split at h
    · cases h
      cases hw
    · cases h

/-- The findings of a pattern are those under number 1, and the warnings those under number 1, renumbered. -/
theorem patternReport_eq_renumbered (ctx : Context) (number : Nat) (p : RulePattern) :
    (patternReport ctx number p).findings = (patternReport (ctx.only p) 1 p).findings ∧
    (patternReport ctx number p).warnings = (patternReport (ctx.only p) 1 p).warnings.map
    (renumber ctx.rule number) := by
  by_cases hp : p.kind = .query
  · rw [patternReport_query _ _ hp, patternReport_query _ _ hp, runPattern_only]
    cases hrun : runPattern ctx p.value with
    | error message =>
      refine ⟨rfl, ?_⟩
      rw [List.map_singleton]
      exact congrArg (fun w => [w]) (renumber_skipWarning ctx.rule number message).symm
    | ok report =>
      refine ⟨rfl, ?_⟩
      have hsame : ∀ w ∈ report.warnings, renumber ctx.rule number w = w := by
        intro w hw
        rw [warnings_runPattern hrun w hw]
        exact renumber_of_ne (notWarning_ne_skipWarning ctx.rule 1) number
      exact (List.map_id report.warnings).symm.trans (List.map_congr_left fun w hw => (hsame w hw).symm)
  · rw [patternReport_of_ne_query _ _ hp, patternReport_of_ne_query _ _ hp]
    exact ⟨rfl, rfl⟩

/-! ## Rules -/

theorem analyze_only (options : AnalysisOptions) (file content : String) (tree : SyntaxTree) (rule : Rule)
    (p : RulePattern) :
    analyze options file content tree (rule.only p) =
      patternReport (Context.only ⟨options, file, content, tree, rule⟩ p) 1 p := by
  unfold analyze Report.concat
  simp [Rule.only, Context.only]

/-- **One bad pattern never affects the others.** The findings of a rule are those of its patterns alone, one after
the other, and so are the warnings, with the number of the pattern in place of 1. A pattern that is no query adds
nothing; one that cannot be run adds no finding and the one warning that it is skipped; and one that can be run adds
no such warning. -/
theorem analyze_by_pattern (options : AnalysisOptions) (file content : String) (tree : SyntaxTree) (rule : Rule) :
    let alone := fun p => analyze options file content tree (rule.only p)
    (analyze options file content tree rule).findings = rule.patterns.flatMap (fun p => (alone p).findings) ∧
    (analyze options file content tree rule).warnings =
      (rule.patterns.zipIdx 1).flatMap (fun (p, number) => (alone p).warnings.map (renumber rule number)) ∧
    (∀ number message, renumber rule number (skipWarning rule 1 message) = skipWarning rule number message) ∧
    (∀ number w, (∀ message, w ≠ skipWarning rule 1 message) → renumber rule number w = w) ∧
    ∀ p, (p.kind ≠ .query → alone p = {}) ∧
      (p.kind = .query → ∀ message, Refused p.value message → alone p = ⟨[], [skipWarning rule 1 message]⟩) ∧
      (p.kind = .query → (∀ message, ¬Refused p.value message) →
        ∀ w ∈ (alone p).warnings, ∀ number message, w ≠ skipWarning rule number message) := by
  intro alone
  have halone (p : RulePattern) : alone p = _ := analyze_only options file content tree rule p
  have hparts := patternReport_eq_renumbered ⟨options, file, content, tree, rule⟩
  refine ⟨?_, ?_, renumber_skipWarning rule, fun number w h => renumber_of_ne h number, fun p => ⟨?_, ?_, ?_⟩⟩
  · simp only [analyze, Report.concat, List.flatMap_map, halone, (hparts _ _).1]
    -- the numbers play no part in the findings
    conv_rhs => rw [← List.zipIdx_map_fst 1 rule.patterns, List.flatMap_map]
  · simp only [analyze, Report.concat, List.flatMap_map, halone, (hparts _ _).2]
  · intro hp
    rw [halone, patternReport_of_ne_query _ _ hp]
  · intro hp message hrefused
    rw [halone, patternReport_query _ _ hp, (runPattern_error_iff _ _ _).mpr hrefused]
    rfl
  · intro hp hruns w hw number message
    rw [halone, patternReport_query _ _ hp] at hw
    cases hrun : runPattern (Context.only ⟨options, file, content, tree, rule⟩ p) p.value with
    | error message => exact absurd ((runPattern_error_iff _ _ _).mp hrun) (hruns message)
    | ok report =>
      rw [hrun] at hw
      rw [warnings_runPattern hrun w hw]
      exact notWarning_ne_skipWarning rule number message

end Analysis

end SourceAudit
