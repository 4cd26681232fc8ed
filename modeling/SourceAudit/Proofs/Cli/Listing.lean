import SourceAudit.Cli.Listing
import SourceAudit.Proofs.Scan.Merge
import SourceAudit.Proofs.SortedMap

/-!
# Listings and scans

A listing and a scan each decide which rules are enabled, for which files they are, and how severe they are. They agree.

* `Made.severity_eq` : a finding has the severity of its rule, unless it comes from a flow and tells its risk;
* `mem_findings_scan` : what a scan reports is found by a rule that is run, and then has the severity of the
  configuration;
* `runs_eq_ofRule`, `filter_enabled_listing` : the enabled rules of a listing are those that are run;
* `listing_agrees` : a listing tells what a scan does.
-/

namespace SourceAudit

variable {s : Scanner} {file content : String} {tree : SyntaxTree} {rule : Rule} {f : Finding}

/-! ## Severities -/

/-- Only a flow has a severity other than that of the rule, and it tells its risk. -/
theorem Analysis.Made.severity_eq {ctx : Context} (h : Made ctx f) (hrisk : f.extra.get? "riskLevel" = none) :
    f.severity = ctx.rule.severity := by
  cases h with
  | flow =>
    simp [Context.flowFinding, Finding.withExtra, SortedMap.get?_insert] at hrisk
  | selected => rfl
  | legacy =>
    unfold Context.legacyFinding
    dsimp only
    split <;> rfl

theorem Baseline.severity_of_mem_analyze {confidence : Binary64} {context : Nat}
    (hf : f ∈ (Baseline.analyze confidence context file content rule).findings) : f.severity = rule.severity := by
  obtain ⟨⟨line, number⟩, -, h⟩ := List.mem_filterMap.mp hf
  obtain ⟨column, -, rfl⟩ := Option.map_eq_some_iff.mp h
  rfl

namespace Scanner

theorem severity_of_mem_ruleReport (hf : f ∈ (s.ruleReport file content tree rule).findings)
    (hrisk : f.extra.get? "riskLevel" = none) : f.severity = rule.severity := by
  rcases mem_ruleReport hf with hline | hmade
  · exact Baseline.severity_of_mem_analyze hline
  · exact hmade.severity_eq hrisk

/-- What a scan reports is found by a rule that is run, and then gets the severity of the configuration. -/
theorem mem_findings_scan {report : Report} (h : s.scan file content = .ok report) (hf : f ∈ report.findings) :
    ∃ tree, ∃ r ∈ s.rulesFor file, ∃ g ∈ (s.ruleReport file content tree r).findings,
      f = { g with severity := s.config.severityOf g.rule g.severity } := by
  rw [scan_eq] at h
  cases htree : treeFor (s.rulesFor file) file content with
  | error e =>
    rw [htree] at h
    cases h
  | ok tree =>
    rw [htree] at h
    cases h
    obtain ⟨g, hg, hfg⟩ := List.mem_map.mp (List.mem_filter.mp (List.mem_mergeSort.mp hf)).1
    obtain ⟨r, hr, hg⟩ := List.mem_flatMap.mp hg
    exact ⟨tree, r, hr, g, hg, hfg.symm⟩

end Scanner

/-! ## Listings -/

namespace Cli

open Scanner (treeFor)

variable {language : String}

/-- Whether a rule for a language is run can be told from its line in a listing. -/
theorem runs_eq_ofRule (hlanguage : languageOf? file = some language) (r : Rule) :
    s.runs file r = ((ListedRule.ofRule s.config r).enabled && r.appliesTo (some language)) := by
  rw [Scanner.runs, hlanguage, ListedRule.ofRule]
  simp only [Bool.and_assoc, Bool.and_left_comm]

theorem filter_enabled_listing (hlanguage : languageOf? file = some language) :
    (listing s.rules s.config (some language)).filter (·.enabled) = (s.rulesFor file).map
    (ListedRule.ofRule s.config) := by
  rw [listing, List.filter_map, List.filter_filter, Scanner.rulesFor_eq]
  refine congrArg (List.map _) (List.filter_congr fun r _ => ?_)
  rw [runs_eq_ofRule hlanguage]
  rfl

/-- Two rules with one line in a listing are both run, or neither is. -/
theorem runs_of_ofRule_eq (hlanguage : languageOf? file = some language) {r q : Rule}
    (h : ListedRule.ofRule s.config r = ListedRule.ofRule s.config q) : s.runs file r = s.runs file q := by
  have hlanguages : r.languages = q.languages := congrArg ListedRule.languages h
  rw [runs_eq_ofRule hlanguage, runs_eq_ofRule hlanguage, h, Rule.appliesTo, Rule.appliesTo, hlanguages]

theorem mem_rulesFor_iff (hlanguage : languageOf? file = some language) (hrule : rule ∈ s.rules.rules) :
    rule ∈ s.rulesFor file ↔
      ListedRule.ofRule s.config rule ∈ (listing s.rules s.config (some language)).filter (·.enabled) := by
  rw [filter_enabled_listing hlanguage, Scanner.rulesFor_eq]
  constructor
  · exact List.mem_map_of_mem
  · intro h
    obtain ⟨q, hq, heq⟩ := List.mem_map.mp h
    exact List.mem_filter.mpr ⟨hrule, (runs_of_ofRule_eq hlanguage heq).symm.trans (List.mem_filter.mp hq).2⟩

/-- A reported finding has the severity that is listed for its rule, unless it tells a risk that no setting overrides.
-/
theorem severity_eq_listed {g : Finding} (hg : g ∈ (s.ruleReport file content tree rule).findings)
    (h : g.extra.get? "riskLevel" = none ∨ (s.config.rules.severity.get? g.rule).isSome = true) :
    s.config.severityOf g.rule g.severity = (ListedRule.ofRule s.config rule).severity := by
  have hid := Scanner.rule_of_mem_ruleReport hg
  have hlisted : (ListedRule.ofRule s.config rule).severity = s.config.severityOf rule.id rule.severity := rfl
  rw [hlisted, ← hid]
  rcases h with hrisk | hset
  · rw [Scanner.severity_of_mem_ruleReport hg hrisk]
  · obtain ⟨severity, hseverity⟩ := Option.isSome_iff_exists.mp hset
    rw [Config.severityOf, Config.severityOf, hseverity, Option.getD_some, Option.getD_some]

theorem eq_ofRule_of_id (hrule : rule ∈ s.rules.rules) {other : ListedRule}
    (hother : other ∈ listing s.rules s.config (some language)) (hid : other.id = rule.id) :
    other = ListedRule.ofRule s.config rule := by
  obtain ⟨q, hq, rfl⟩ := List.mem_map.mp hother
  have hmem : q ∈ s.rules.rules.filter (·.id = rule.id) :=
    List.mem_filter.mpr ⟨(List.mem_filter.mp hq).1, decide_eq_true hid⟩
  rw [Scanner.filter_id_of_nodup s.rules.nodup_ids hrule, List.mem_singleton] at hmem
  rw [hmem]

/-- **A listing tells what a scan does.** The rules that are run on a file are, in order, the enabled ones of the
listing for its language. Every finding belongs to one of them, and has the severity that is listed for it if it does
not tell the risk of a flow or if the configuration sets the severity of the rule. -/
theorem listing_agrees (s : Scanner) (language file content : String) (hlanguage : languageOf? file = some language) :
    let listed := (listing s.rules s.config (some language)).filter (·.enabled)
    (s.rulesFor file).map (ListedRule.ofRule s.config) = listed ∧ (s.rulesFor file).Sublist s.rules.rules ∧
    (∀ r ∈ s.rules.rules, r ∈ s.rulesFor file ↔ ListedRule.ofRule s.config r ∈ listed) ∧
    (s.scan file content =
      (treeFor (s.rulesFor file) file content).map fun tree => s.reportOf file content tree (s.rulesFor file)) ∧
    ∀ report, s.scan file content = .ok report → ∀ f ∈ report.findings, ∃ entry ∈ listed, entry.id = f.rule ∧
      (f.extra.get? "riskLevel" = none ∨ (s.config.rules.severity.get? f.rule).isSome = true →
        f.severity = entry.severity) ∧
      ∀ other ∈ listing s.rules s.config (some language), other.id = f.rule → other = entry := by
  have hsublist : (s.rulesFor file).Sublist s.rules.rules := by
    rw [Scanner.rulesFor_eq]
    exact List.filter_sublist
  refine ⟨(filter_enabled_listing hlanguage).symm, hsublist, fun r hr => mem_rulesFor_iff hlanguage hr,
    Scanner.scan_eq s file content, fun report hscan f hf => ?_⟩
  obtain ⟨tree, r, hr, g, hg, rfl⟩ := Scanner.mem_findings_scan hscan hf
  have hid := Scanner.rule_of_mem_ruleReport hg
  refine ⟨_, (mem_rulesFor_iff hlanguage (hsublist.subset hr)).mp hr, hid.symm, fun h => severity_eq_listed hg h,
    fun other hother hother_id => ?_⟩
  exact eq_ofRule_of_id (hsublist.subset hr) hother (hother_id.trans hid)

/-- Two rules for one text, of which the configuration disables one and sets the severity of the other. -/
theorem listing_agrees_with_settings :
    let literal : String → String → Rule := fun id value =>
      { id, name := id, severity := .high, languages := ["Python"], patterns := [⟨.literal, value, true⟩] }
    let s : Scanner := ⟨.inserted [literal "call" "eval(", literal "evaluation" "eval"],
      { rules := { disabled := ["call"], severity := .ofList [("evaluation", .low)] } }⟩
    languageOf? "a.py" = some "python" ∧ ∃ report, s.scan "a.py" "eval(x)" = .ok report ∧ report.findings.length = 1 ∧
      ∀ f ∈ report.findings, f.rule = "evaluation" ∧ f.severity = .low := by
  intro literal s
  have hlanguage : languageOf? "a.py" = some "python" := by decide +kernel
  have hscan := Scanner.scan_of_no_queries (s := s) (by decide) "a.py" "eval(x)"
  obtain ⟨-, -, -, -, hfindings⟩ := listing_agrees s "python" "a.py" "eval(x)" hlanguage
  refine ⟨hlanguage, _, hscan, ?_, fun f hf => ?_⟩
  · rw [Scanner.reportOf, Scanner.settle_eq, List.length_mergeSort]
    decide +kernel
  · obtain ⟨entry, hentry, hid, hseverity, -⟩ := hfindings _ hscan f hf
    have hset : (listing s.rules s.config (some "python")).filter (·.enabled) =
        [ListedRule.ofRule s.config (literal "evaluation" "eval")] := rfl
    rw [hset, List.mem_singleton] at hentry
    have hrule : f.rule = "evaluation" := by rw [← hid, hentry]; rfl
    refine ⟨hrule, (hseverity (.inr ?_)).trans ?_⟩
    · rw [hrule]
      decide +kernel
    · rw [hentry]
      decide +kernel

end Cli

end SourceAudit
