import Mathlib.Data.List.Basic
import SourceAudit.Proofs.Analysis.Origin
import SourceAudit.Proofs.Location
import SourceAudit.Proofs.Rule.Set
import SourceAudit.Proofs.Sorting
import SourceAudit.Scan

/-!
# A scan as a merge

What several rules find in a file is what each of them finds alone, merged by position.

* `kept` : the findings of a report before they are sorted; `filter_settle`, `ties_settle` : the same for settled
  findings;
* `alone`, `runs`, `reportOf` : a scanner with one rule, whether a rule is run, and what rules find over a tree;
* `mem_ruleReport` : what a rule finds, by line or by query;
* `scan_alone` : a rule alone is run over the tree of all rules, or does not look at it;
* `findings_of_rule`, `warnings_by_rule`, `findings_in_rule_order` : the parts of a report;
* `scan_disabling` : to disable a rule is to remove it;
* `scan_merges` : a scan is the stable merge of the scans with each rule alone.
-/

namespace SourceAudit

namespace Scanner

variable {s : Scanner} {file content : String} {tree : SyntaxTree} {rule : Rule} {config : Config}

/-! ## Settling findings -/

theorem not_precedes_iff (a b : Finding) :
    (!b.location.precedes a.location) = true ↔ a.location.pos ≤ b.location.pos := by
  rw [Bool.not_eq_true', Bool.eq_false_iff, ne_eq, Location.precedes_iff, not_lt]

theorem order_trans (a b c : Finding) (hab : !b.location.precedes a.location) (hbc : !c.location.precedes b.location) :
    !c.location.precedes a.location := by
  rw [not_precedes_iff] at *
  exact hab.trans hbc

theorem order_total (a b : Finding) : (!b.location.precedes a.location) || !a.location.precedes b.location := by
  rw [Bool.or_eq_true, not_precedes_iff, not_precedes_iff]
  exact le_total _ _

/-- The findings that are reported, with their severities, before they are sorted. -/
def kept (config : Config) (fs : List Finding) : List Finding :=
  (fs.map fun f => { f with severity := config.severityOf f.rule f.severity }).filter fun f =>
    config.rules.minConfidence.all fun least => least.le f.confidence

theorem settle_eq (config : Config) (fs : List Finding) :
    settle config fs = (kept config fs).mergeSort fun a b => !b.location.precedes a.location := rfl

theorem filter_kept (config : Config) (id : String) (fs : List Finding) :
    (kept config fs).filter (·.rule = id) = kept config (fs.filter (·.rule = id)) := by
  unfold kept
  simp only [List.filter_map, List.filter_filter, Function.comp_def, Bool.and_comm]

theorem rule_of_mem_kept {fs : List Finding} {f : Finding} (h : f ∈ kept config fs) : ∃ g ∈ fs, g.rule = f.rule := by
  obtain ⟨g, hg, rfl⟩ := List.mem_map.mp (List.mem_filter.mp h).1
  exact ⟨g, hg, rfl⟩

theorem pairwise_kept {R : String → String → Prop} {fs : List Finding} (h : fs.Pairwise fun a b => R a.rule b.rule) :
    (kept config fs).Pairwise fun a b => R a.rule b.rule := by
  refine List.Pairwise.filter _ (List.pairwise_map.mpr ?_)
  exact h

theorem pairwise_settle (config : Config) (fs : List Finding) :
    (settle config fs).Pairwise fun a b => a.location.pos ≤ b.location.pos :=
  (List.pairwise_mergeSort order_trans order_total _).imp fun h => (not_precedes_iff _ _).mp h

/-- What is settled can be told for each rule apart. -/
theorem filter_settle (config : Config) (id : String) (fs : List Finding) :
    (settle config fs).filter (·.rule = id) = settle config (fs.filter (·.rule = id)) := by
  rw [settle_eq, filter_mergeSort order_trans order_total, filter_kept, settle_eq]

/-- Findings at one place keep their order. -/
theorem ties_settle {R : String → String → Prop} {fs : List Finding} (h : fs.Pairwise fun a b => R a.rule b.rule) :
    (settle config fs).Pairwise fun a b => a.location = b.location → R a.rule b.rule := by
  refine (pairwise_ties_mergeSort order_trans order_total (pairwise_kept h)).imp fun {a b} hties hab => hties ?_
  rw [not_precedes_iff, hab]

/-! ## Single rules -/

def alone (s : Scanner) (rule : Rule) : Scanner := { s with rules := ⟨[rule], List.nodup_singleton _⟩ }

def runs (s : Scanner) (file : String) (rule : Rule) : Bool :=
  !s.config.isDisabled rule.id && (rule.enabled && rule.appliesTo (languageOf? file))

def reportOf (s : Scanner) (file content : String) (tree : SyntaxTree) (rules : List Rule) : Report :=
  ⟨settle s.config (rules.flatMap fun r => (s.ruleReport file content tree r).findings),
    rules.flatMap fun r => (s.ruleReport file content tree r).warnings⟩

theorem rulesFor_eq (s : Scanner) (file : String) : s.rulesFor file = s.rules.rules.filter (s.runs file) :=
  List.filter_filter

theorem scan_eq (s : Scanner) (file content : String) :
    s.scan file content =
      (treeFor (s.rulesFor file) file content).map fun tree => s.reportOf file content tree (s.rulesFor file) := by
  unfold scan reportOf
  simp only [Report.concat, List.flatMap_map]
  cases treeFor (s.rulesFor file) file content <;> rfl

theorem ruleReport_of_no_query (h : rule.hasQueryPatterns = false) (tree tree' : SyntaxTree) :
    s.ruleReport file content tree rule = s.ruleReport file content tree' rule := by
  simp [ruleReport, h]

/-- Without queries, no tree is built and a scan always gives a report. -/
theorem scan_of_no_queries (h : ∀ r ∈ s.rules.rules, r.hasQueryPatterns = false) (file content : String) :
    s.scan file content = .ok (s.reportOf file content .empty (s.rulesFor file)) := by
  have hany : (s.rulesFor file).any (·.hasQueryPatterns) = false := by
    rw [rulesFor_eq, List.any_eq_false]
    intro r hr
    simp [h r (List.mem_filter.mp hr).1]
  rw [scan_eq, treeFor, hany]
  rfl

/-- What a rule finds is found on a line, or made by one of its queries. -/
theorem mem_ruleReport {f : Finding} (hf : f ∈ (s.ruleReport file content tree rule).findings) :
    f ∈ (Baseline.analyze s.config.analysis.defaultConfidence s.config.analysis.snippetContext file content
      rule).findings ∨ Analysis.Made ⟨s.config.analysis, file, content, tree, rule⟩ f := by
  unfold ruleReport at hf
  dsimp only at hf
  split at hf
  · exact (List.mem_append.mp hf).imp_right Analysis.made_of_mem_analyze
  · exact .inl hf

theorem rule_of_mem_ruleReport {f : Finding} (hf : f ∈ (s.ruleReport file content tree rule).findings) :
    f.rule = rule.id := by
  rcases mem_ruleReport hf with hline | hmade
  · exact Baseline.rule_of_mem_analyze hline
  · exact hmade.rule_eq

/-- If a scan has a tree, then a rule alone is run over the same tree, or does not look at it. -/
theorem scan_alone (htree : treeFor (s.rulesFor file) file content = .ok tree) (hrule : rule ∈ s.rules.rules) :
    (s.alone rule).scan file content = .ok (s.reportOf file content tree ([rule].filter (s.runs file))) := by
  have hrules : (s.alone rule).rulesFor file = [rule].filter (s.runs file) := rulesFor_eq _ _
  have halone (t : SyntaxTree) (rules : List Rule) :
      (s.alone rule).reportOf file content t rules = s.reportOf file content t rules := rfl
  rw [scan_eq, hrules]
  simp only [halone]
  cases hruns : s.runs file rule with
  | false =>
    rw [List.filter_cons_of_neg (by simp [hruns]), List.filter_nil]
    have hempty : treeFor [] file content = .ok .empty := by simp [treeFor]
    have hnil (t : SyntaxTree) : s.reportOf file content t [] = ⟨settle s.config [], []⟩ := rfl
    simp only [hempty, hnil, Except.map]
  | true =>
    rw [List.filter_cons_of_pos hruns, List.filter_nil]
    cases hquery : rule.hasQueryPatterns with
    | true =>
      have hany : (s.rulesFor file).any (·.hasQueryPatterns) = true := by
        rw [rulesFor_eq]
        exact List.any_eq_true.mpr ⟨rule, List.mem_filter.mpr ⟨hrule, hruns⟩, hquery⟩
      have hsame : treeFor [rule] file content = .ok tree := by
        rw [← htree]
        simp [treeFor, hany, hquery]
      rw [hsame]
      rfl
    | false =>
      have hempty : treeFor [rule] file content = .ok .empty := by simp [treeFor, hquery]
      have hreport : s.ruleReport file content tree rule = s.ruleReport file content .empty rule :=
        ruleReport_of_no_query hquery tree .empty
      have hsingle (t : SyntaxTree) : s.reportOf file content t [rule] =
          ⟨settle s.config (s.ruleReport file content t rule).findings,
            (s.ruleReport file content t rule).warnings⟩ := by
        rw [reportOf, List.flatMap_singleton, List.flatMap_singleton]
      rw [hempty, hsingle, hreport, ← hsingle]
      rfl

/-! ## All rules -/

/-- A finding names its rule, so the findings of one rule are those of the rules with its identifier. -/
theorem filter_findings (id : String) (rules : List Rule) :
    (rules.flatMap fun r => (s.ruleReport file content tree r).findings).filter (·.rule = id) =
      (rules.filter (·.id = id)).flatMap fun r => (s.ruleReport file content tree r).findings := by
  induction rules with
  | nil => rfl
  | cons r rules ih =>
    rw [List.flatMap_cons, List.filter_append, ih]
    by_cases hid : r.id = id
    · have hall : ∀ f ∈ (s.ruleReport file content tree r).findings, decide (f.rule = id) = true := fun f hf =>
        decide_eq_true ((rule_of_mem_ruleReport hf).trans hid)
      rw [List.filter_eq_self.mpr hall, List.filter_cons_of_pos (by simpa using hid), List.flatMap_cons]
    · have hnone : ∀ f ∈ (s.ruleReport file content tree r).findings, ¬decide (f.rule = id) = true := fun f hf h =>
        hid ((rule_of_mem_ruleReport hf).symm.trans (of_decide_eq_true h))
      rw [List.filter_eq_nil_iff.mpr hnone, List.filter_cons_of_neg (by simpa using hid), List.nil_append]

theorem filter_id_of_nodup {rules : List Rule} (hids : (rules.map Rule.id).Nodup) (hrule : rule ∈ rules) :
    rules.filter (·.id = rule.id) = [rule] := by
  induction rules with
  | nil => cases hrule
  | cons r rules ih =>
    obtain ⟨hr, hrules⟩ := List.nodup_cons.mp hids
    rcases List.mem_cons.mp hrule with rfl | hmem
    · rw [List.filter_cons_of_pos (by simp)]
      refine congrArg (rule :: ·) (List.filter_eq_nil_iff.mpr fun q hq hid => hr ?_)
      exact List.mem_map.mpr ⟨q, hq, of_decide_eq_true hid⟩
    · have hne : r.id ≠ rule.id := fun h => hr (h ▸ List.mem_map_of_mem hmem)
      rw [List.filter_cons_of_neg (by simpa using hne), ih hrules hmem]

theorem findings_of_rule (hrule : rule ∈ s.rules.rules) :
    (s.reportOf file content tree (s.rulesFor file)).findings.filter (·.rule = rule.id) =
      (s.reportOf file content tree ([rule].filter (s.runs file))).findings := by
  unfold reportOf
  rw [filter_settle, filter_findings, rulesFor_eq, List.filter_filter, ← filter_id_of_nodup s.rules.nodup_ids hrule,
    List.filter_filter]
  simp only [Bool.and_comm]

theorem warnings_by_rule (s : Scanner) (file content : String) (tree : SyntaxTree) :
    (s.reportOf file content tree (s.rulesFor file)).warnings =
      s.rules.rules.flatMap fun r => (s.reportOf file content tree ([r].filter (s.runs file))).warnings := by
  unfold reportOf
  rw [rulesFor_eq]
  induction s.rules.rules with
  | nil => rfl
  | cons r rules ih =>
    rw [List.flatMap_cons, ← ih]
    cases hruns : s.runs file r <;> simp [hruns]

/-- Distinct members of a list come in the order of their places. -/
theorem pairwise_idxOf {names : List String} (h : names.Nodup) :
    names.Pairwise fun a b => names.idxOf a ≤ names.idxOf b := by
  rw [List.pairwise_iff_getElem]
  intro i j hi hj hij
  rw [h.idxOf_getElem, h.idxOf_getElem]
  exact hij.le

theorem findings_in_rule_order (s : Scanner) (file content : String) (tree : SyntaxTree) :
    (s.reportOf file content tree (s.rulesFor file)).findings.Pairwise fun a b =>
      a.location = b.location → s.rules.ids.idxOf a.rule ≤ s.rules.ids.idxOf b.rule := by
  refine ties_settle (R := fun a b => s.rules.ids.idxOf a ≤ s.rules.ids.idxOf b) (List.pairwise_flatMap.mpr ⟨?_, ?_⟩)
  · intro r _
    refine List.pairwise_of_forall_mem_list fun a ha b hb => ?_
    rw [rule_of_mem_ruleReport ha, rule_of_mem_ruleReport hb]
  · rw [rulesFor_eq]
    refine ((List.pairwise_map.mp (pairwise_idxOf s.rules.nodup_ids)).filter _).imp fun hle a ha b hb => ?_
    rw [rule_of_mem_ruleReport ha, rule_of_mem_ruleReport hb]
    exact hle

theorem rule_of_mem_reportOf {f : Finding} (hf : f ∈ (s.reportOf file content tree (s.rulesFor file)).findings) :
    f.rule ∈ s.rules.ids := by
  obtain ⟨g, hg, hrule⟩ := rule_of_mem_kept (List.mem_mergeSort.mp hf)
  obtain ⟨r, hr, hg⟩ := List.mem_flatMap.mp hg
  rw [rulesFor_eq] at hr
  rw [← hrule, rule_of_mem_ruleReport hg]
  exact List.mem_map_of_mem (List.mem_filter.mp hr).1

/-! ## Disabled rules -/

def disabling (s : Scanner) (ids : List String) : Scanner :=
  { s with config := { s.config with rules := { s.config.rules with disabled := ids } } }

def without (s : Scanner) (id : String) : Scanner :=
  { s with rules := ⟨s.rules.rules.filter (·.id ≠ id), s.rules.distinct.sublist (List.filter_sublist.map Rule.id)⟩ }

theorem scan_disabling {ids : List String} {id : String} (h : ∀ x, x ∈ ids ↔ x = id ∨ x ∈ s.config.rules.disabled)
    (file content : String) : (s.disabling ids).scan file content = (s.without id).scan file content := by
  have hrules : (s.disabling ids).rulesFor file = (s.without id).rulesFor file := by
    rw [rulesFor_eq, rulesFor_eq, without, List.filter_filter]
    refine List.filter_congr fun r _ => ?_
    have hdisabled : (s.disabling ids).config.isDisabled r.id = (decide (r.id = id) || s.config.isDisabled r.id) := by
      rw [Bool.eq_iff_iff]
      simp [Config.isDisabled, disabling, h]
    simp only [runs, hdisabled, Bool.not_or, Bool.and_assoc, Bool.and_comm, Bool.and_left_comm, ne_eq, decide_not]
  rw [scan_eq, scan_eq, hrules]
  rfl

/-- **A scan is the stable merge, by position, of the scans with each rule alone.** Findings are in the order of the
text; those of a rule are, in order, what the rule finds alone; at one place, those of an earlier rule come first; and
there are no others. Warnings are those of the rules alone, in the order of the rules. To disable a rule is to remove
it. -/
theorem scan_merges (s : Scanner) (file content : String) (report : Report)
    (h : s.scan file content = .ok report) :
    (report.findings.Pairwise fun a b => a.location.pos ≤ b.location.pos) ∧
    (∃ part : Rule → Report,
      (∀ r ∈ s.rules.rules, (s.alone r).scan file content = .ok (part r) ∧
        report.findings.filter (·.rule = r.id) = (part r).findings) ∧
      report.warnings = s.rules.rules.flatMap fun r => (part r).warnings) ∧
    (∀ f ∈ report.findings, f.rule ∈ s.rules.ids) ∧
    (report.findings.Pairwise fun a b =>
      a.location = b.location → s.rules.ids.idxOf a.rule ≤ s.rules.ids.idxOf b.rule) ∧
    ∀ id ids, (∀ x, x ∈ ids ↔ x = id ∨ x ∈ s.config.rules.disabled) →
      (s.disabling ids).scan file content = (s.without id).scan file content := by
  rw [scan_eq] at h
  cases htree : treeFor (s.rulesFor file) file content with
  | error e =>
    rw [htree] at h
    cases h
  | ok tree =>
    rw [htree] at h
    cases h
    refine ⟨pairwise_settle _ _, ⟨fun r => s.reportOf file content tree ([r].filter (s.runs file)), fun r hr => ?_,
      warnings_by_rule s file content tree⟩, fun f hf => rule_of_mem_reportOf hf,
      findings_in_rule_order s file content tree, fun id ids hdisabled => scan_disabling hdisabled file content⟩
    exact ⟨scan_alone htree hr, findings_of_rule hr⟩

/-- Two rules that find something at one place. -/
theorem scan_merges_two_rules :
    let literal : String → String → Rule := fun id value =>
      { id, name := id, severity := .high, patterns := [⟨.literal, value, true⟩] }
    let s : Scanner := ⟨.inserted [literal "evaluation" "eval", literal "call" "eval("], {}⟩
    ∃ report, s.scan "a.py" "eval(x)" = .ok report ∧ report.findings.length = 2 ∧
      report.findings.Pairwise fun a b =>
        a.location = b.location → s.rules.ids.idxOf a.rule ≤ s.rules.ids.idxOf b.rule := by
  intro literal s
  have hscan := scan_of_no_queries (s := s) (by decide) "a.py" "eval(x)"
  refine ⟨_, hscan, ?_, (scan_merges s _ _ _ hscan).2.2.2.1⟩
  rw [reportOf, settle_eq, List.length_mergeSort]
  decide +kernel

end Scanner

end SourceAudit
