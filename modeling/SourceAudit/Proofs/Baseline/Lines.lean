import Mathlib.Data.List.Forall2
import SourceAudit.Baseline
import SourceAudit.Proofs.Regex.Leftmost

/-!
# Findings line by line

* `Finds p line` : a pattern of a rule matches a line; `FindsBehind p line a` : it does so behind the start `a`;
* `FoundAt p line column` : the column that a pattern gives a line;
* `offset? p line` : where a pattern is found, whatever the rule; `columnIn?_usable` : the first of the patterns of a
  rule that is found gives the column;
* `FirstToFind rule line p` : `p` is the first pattern of a rule that matches a line;
* `Broken p` : a regular expression that cannot be read; `skipped_forall₂` : the warnings;
* `mem_findings_iff`, `findings_increasing` : the lines with a finding;
* `analyze_exact` : the whole report.
-/

namespace SourceAudit.Baseline

open Text (byteLength Shortest)

variable {p : RulePattern} {line : List Char} {rule : Rule}

/-! ## What a pattern matches -/

/-- The pattern matches the line. A literal that does not heed case is compared in lower case. -/
def Finds (p : RulePattern) (line : List Char) : Prop :=
  match p.kind with
  | .query => False
  | .literal =>
    if p.caseSensitive = true then p.value.toList <:+: line
    else Text.lowercase p.value.toList <:+: Text.lowercase line
  | .regex => ∃ r, Regex.parse p.value (!p.caseSensitive) = .ok r ∧ ∃ a, r.StartsBehind line a

/-- The pattern, a regular expression or a literal that heeds case, matches behind a start of the line. -/
def FindsBehind (p : RulePattern) (line a : List Char) : Prop :=
  match p.kind with
  | .query => False
  | .literal => a ++ p.value.toList <+: line
  | .regex => ∃ r, Regex.parse p.value (!p.caseSensitive) = .ok r ∧ r.StartsBehind line a

def Folded (p : RulePattern) : Prop := p.kind = .literal ∧ p.caseSensitive = false

/-- The column that a pattern gives a line: behind the leftmost match, or, for a literal that does not heed case, the
column of the offset of the leftmost match in the line in lower case. -/
def FoundAt (p : RulePattern) (line : List Char) (column : Nat) : Prop :=
  (Folded p → ∃ a, Shortest (fun a => a ++ Text.lowercase p.value.toList <+: Text.lowercase line) a ∧
    column = columnAt line (byteLength a)) ∧
  (¬Folded p → ∃ a, Shortest (FindsBehind p line) a ∧ column = a.length + 1)

theorem FindsBehind.isPrefix {a : List Char} (h : FindsBehind p line a) : a <+: line := by
  unfold FindsBehind at h
  cases hk : p.kind with
  | query => simp [hk] at h
  | literal =>
    simp only [hk] at h
    exact (List.prefix_append a _).trans h
  | regex =>
    simp only [hk] at h
    obtain ⟨r, -, h⟩ := h
    exact h.isPrefix

def offset? (p : RulePattern) (line : List Char) : Option Nat :=
  match p.kind with
  | .query => none
  | .literal =>
    if p.caseSensitive then Text.find? p.value.toList line
    else Text.find? (Text.lowercase p.value.toList) (Text.lowercase line)
  | .regex =>
    match Regex.parse p.value !p.caseSensitive with
    | .ok r => (r.find? line).map (·.start)
    | .error _ => none

theorem columnAt_byteLength {a : List Char} (h : a <+: line) : columnAt line (byteLength a) = a.length + 1 := by
  rw [columnAt, Text.columnAt?_byteLength h, Option.getD_some]

theorem offset?_isSome_iff : (offset? p line).isSome = true ↔ Finds p line := by
  unfold offset? Finds
  cases p.kind with
  | query => simp
  | literal =>
    dsimp only
    split
    · exact Text.find?_isSome_iff
    · exact Text.find?_isSome_iff
  | regex =>
    dsimp only
    cases hr : Regex.parse p.value (!p.caseSensitive) with
    | ok r =>
      dsimp only
      rw [Option.isSome_map, ← Regex.isMatch, Regex.isMatch_iff]
      constructor
      · intro h
        exact ⟨r, rfl, h⟩
      · rintro ⟨r', hr', h⟩
        cases hr'
        exact h
    | error e => simp

theorem offset?_eq_none_iff : offset? p line = none ↔ ¬Finds p line := by
  rw [← offset?_isSome_iff, Bool.not_eq_true, Option.isSome_eq_false_iff, Option.isNone_iff_eq_none]

theorem foundAt_of_offset? {n : Nat} (h : offset? p line = some n) : FoundAt p line (columnAt line n) := by
  unfold offset? at h
  constructor
  · rintro ⟨hk, hcase⟩
    simp only [hk, hcase, Bool.false_eq_true, if_false] at h
    obtain ⟨a, ha, rfl⟩ := Text.find?_eq_some_iff.mp h
    exact ⟨a, ha, rfl⟩
  · intro hexact
    -- the offset is that of a shortest start of the line itself
    have hbehind : ∃ a, Shortest (FindsBehind p line) a ∧ byteLength a = n := by
      unfold FindsBehind
      cases hk : p.kind with
      | query => simp [hk] at h
      | literal =>
        have hcase : p.caseSensitive = true := by
          rw [← Bool.not_eq_false]
          exact fun hcase => hexact ⟨hk, hcase⟩
        simp only [hk, hcase, if_true] at h
        exact Text.find?_eq_some_iff.mp h
      | regex =>
        simp only [hk] at h
        cases hr : Regex.parse p.value (!p.caseSensitive) with
        | ok r =>
          simp only [hr] at h
          simpa using Regex.find?_start_eq_some_iff.mp h
        | error e => simp [hr] at h
    obtain ⟨a, ha, rfl⟩ := hbehind
    exact ⟨a, ha, columnAt_byteLength ha.1.isPrefix⟩

/-! ## The patterns of a rule -/

/-- The regular expression cannot be read. -/
def Broken (p : RulePattern) : Bool := p.kind = .regex && (Regex.parse p.value !p.caseSensitive).toOption.isNone

def comparable (rule : Rule) : Rule :=
  { rule with patterns := rule.patterns.filter fun p => p.kind ≠ .query && !Broken p }

theorem offset?_of_ready {q : Option LinePattern} (h : ready rule p = .ok q) :
    offset? p line = q.bind (·.find? line) := by
  unfold ready at h
  unfold offset?
  cases hk : p.kind with
  | query =>
    simp only [hk] at h
    cases h
    rfl
  | literal =>
    simp only [hk] at h
    cases h
    dsimp only
    split <;> rfl
  | regex =>
    simp only [hk] at h
    cases hr : Regex.parse p.value (!p.caseSensitive) with
    | ok r =>
      simp only [hr] at h
      cases h
      rfl
    | error e => simp [hr] at h

theorem offset?_of_warning {warning : String} (h : ready rule p = .error warning) : offset? p line = none := by
  unfold ready at h
  unfold offset?
  cases hk : p.kind with
  | query => rfl
  | literal => simp [hk] at h
  | regex =>
    cases hr : Regex.parse p.value (!p.caseSensitive) with
    | ok r => simp [hk, hr] at h
    | error e => rfl

theorem columnIn?_usable (rule : Rule) (line : List Char) :
    columnIn? (usable rule) line = (rule.patterns.findSome? (offset? · line)).map (columnAt line) := by
  rw [columnIn?, usable]
  congr 1
  induction rule.patterns with
  | nil => rfl
  | cons p ps ih =>
    rw [List.findSome?_cons, ← ih, List.filterMap_cons]
    cases hready : ready rule p with
    | error warning => rw [offset?_of_warning hready]
    | ok q =>
      rw [offset?_of_ready hready]
      cases q with
      | none => rfl
      | some q => rfl

theorem offset?_eq_none_of_not_comparable (h : (p.kind ≠ .query && !Broken p) = false) : offset? p line = none := by
  rw [offset?_eq_none_iff]
  unfold Finds Broken at *
  cases hk : p.kind with
  | query => exact id
  | literal => simp [hk] at h
  | regex =>
    rintro ⟨r, hr, -⟩
    simp [hk, hr, Except.toOption] at h

/-- Queries and expressions that cannot be read are not missed. -/
theorem columnIn?_comparable (rule : Rule) (line : List Char) :
    columnIn? (usable (comparable rule)) line = columnIn? (usable rule) line := by
  rw [columnIn?_usable, columnIn?_usable, comparable]
  congr 1
  dsimp only
  induction rule.patterns with
  | nil => rfl
  | cons p ps ih =>
    rw [List.filter_cons, List.findSome?_cons]
    split
    · rw [List.findSome?_cons, ih]
    · rename_i hp
      rw [ih, offset?_eq_none_of_not_comparable (Bool.not_eq_true _ ▸ hp)]

def FirstToFind (rule : Rule) (line : List Char) (p : RulePattern) : Prop :=
  ∃ front back, rule.patterns = front ++ p :: back ∧ (∀ q ∈ front, ¬Finds q line) ∧ Finds p line

theorem exists_firstToFind {column : Nat} (h : columnIn? (usable rule) line = some column) :
    ∃ p, FirstToFind rule line p := by
  rw [columnIn?_usable] at h
  obtain ⟨n, hn, -⟩ := Option.map_eq_some_iff.mp h
  obtain ⟨front, p, back, hpatterns, hp, hfront⟩ := List.findSome?_eq_some_iff.mp hn
  refine ⟨p, front, back, hpatterns, fun q hq => offset?_eq_none_iff.mp (hfront q hq), ?_⟩
  exact offset?_isSome_iff.mp (by rw [hp]; rfl)

theorem FirstToFind.foundAt {column : Nat} (hp : FirstToFind rule line p)
    (h : columnIn? (usable rule) line = some column) :
    FoundAt p line column := by
  obtain ⟨front, back, hpatterns, hfront, hfinds⟩ := hp
  obtain ⟨n, hn⟩ := Option.isSome_iff_exists.mp (offset?_isSome_iff.mpr hfinds)
  have hnone : front.findSome? (offset? · line) = none :=
    List.findSome?_eq_none_iff.mpr fun q hq => offset?_eq_none_iff.mpr (hfront q hq)
  rw [columnIn?_usable, hpatterns, List.findSome?_append, hnone, Option.none_or, List.findSome?_cons, hn] at h
  cases h
  exact foundAt_of_offset? hn

theorem skipped_forall₂ (rule : Rule) :
    List.Forall₂ (fun p warning => ∃ e, Regex.parse p.value (!p.caseSensitive) = .error e ∧
      warning = regexWarning rule p.value e) (rule.patterns.filter Broken) (skipped rule) := by
  rw [skipped]
  induction rule.patterns with
  | nil => exact .nil
  | cons p ps ih =>
    cases hk : p.kind with
    | query => simpa [Broken, ready, hk] using ih
    | literal => simpa [Broken, ready, hk] using ih
    | regex =>
      cases hr : Regex.parse p.value (!p.caseSensitive) with
      | ok r => simpa [Broken, ready, hk, hr, Except.toOption] using ih
      | error e => simpa [Broken, ready, hk, hr, Except.toOption] using ih

/-! ## The findings of a text -/

section Findings

variable {confidence : Binary64} {context : Nat} {file content : String} {f : Finding}

theorem mem_findings_iff : f ∈ (analyze confidence context file content rule).findings ↔
    ∃ n line column, (Text.lines content.toList)[n]? = some line ∧ columnIn? (usable rule) line = some column ∧
      f = finding confidence context file content rule line ⟨n + 1, column⟩ := by
  rw [analyze]
  simp only [List.mem_filterMap, Option.map_eq_some_iff, Prod.exists]
  constructor
  · rintro ⟨line, number, hline, column, hcolumn, rfl⟩
    obtain ⟨hpos, hline⟩ := List.mk_mem_zipIdx_iff_le_and_getElem?_sub.mp hline
    refine ⟨number - 1, line, column, hline, hcolumn, ?_⟩
    rw [Nat.sub_add_cancel hpos]
  · rintro ⟨n, line, column, hline, hcolumn, rfl⟩
    refine ⟨line, n + 1, ?_, column, hcolumn, rfl⟩
    rwa [Nat.add_comm n 1, List.mk_add_mem_zipIdx_iff_getElem?]

/-- Findings come in the order of their lines, one for each line at most. -/
theorem findings_increasing : (analyze confidence context file content rule).findings.Pairwise fun f g =>
    f.location.line < g.location.line := by
  rw [analyze]
  dsimp only
  have hnumbers : ((Text.lines content.toList).zipIdx 1).Pairwise fun x y => x.2 < y.2 := by
    rw [← List.pairwise_map, List.zipIdx_map_snd]
    exact List.pairwise_lt_range' 1 Nat.one_pos
  refine List.pairwise_filterMap.mpr (hnumbers.imp fun {x y} hlt f hf g hg => ?_)
  obtain ⟨column, -, rfl⟩ := Option.map_eq_some_iff.mp hf
  obtain ⟨column', -, rfl⟩ := Option.map_eq_some_iff.mp hg
  exact hlt

theorem findings_comparable : (analyze confidence context file content (comparable rule)).findings =
    (analyze confidence context file content rule).findings := by
  rw [analyze, analyze]
  simp only [columnIn?_comparable]
  rfl

theorem columnIn?_isSome_iff : (columnIn? (usable rule) line).isSome = true ↔ ∃ p ∈ rule.patterns, Finds p line := by
  rw [columnIn?_usable, Option.isSome_map, List.findSome?_isSome_iff]
  simp only [offset?_isSome_iff]

end Findings

/-- **The report of a rule on a text.** There is one finding for each line that some pattern of the rule matches, in
the order of the lines. Its column is that of the first pattern that matches the line; for a regular expression and
for a literal that heeds case it counts the characters before the leftmost match. Each regular expression that cannot
be read gives one warning, in the order of the patterns, and without these expressions and the queries the findings
are the same. -/
theorem analyze_exact (confidence : Binary64) (context : Nat) (file content : String) (rule : Rule) :
    let report := analyze confidence context file content rule
    let lines := Text.lines content.toList
    report.findings.Pairwise (fun f g => f.location.line < g.location.line) ∧
    (∀ n line, lines[n]? = some line →
      ((∃ f ∈ report.findings, f.location.line = n + 1) ↔ ∃ p ∈ rule.patterns, Finds p line)) ∧
    (∀ f ∈ report.findings, ∃ n line p, lines[n]? = some line ∧ f.location.line = n + 1 ∧ FirstToFind rule line p ∧
      FoundAt p line f.location.column ∧ f = finding confidence context file content rule line f.location) ∧
    List.Forall₂ (fun p warning => ∃ e, Regex.parse p.value (!p.caseSensitive) = .error e ∧
      warning = regexWarning rule p.value e) (rule.patterns.filter Broken) report.warnings ∧
    (analyze confidence context file content (comparable rule)).findings = report.findings := by
  refine ⟨findings_increasing, fun n line hline => ?_, fun f hf => ?_, skipped_forall₂ rule, findings_comparable⟩
  · rw [← columnIn?_isSome_iff, Option.isSome_iff_exists]
    constructor
    · rintro ⟨f, hf, hnumber⟩
      obtain ⟨m, line', column, hline', hcolumn, rfl⟩ := mem_findings_iff.mp hf
      obtain rfl : m = n := Nat.succ.inj hnumber
      cases hline.symm.trans hline'
      exact ⟨column, hcolumn⟩
    · rintro ⟨column, hcolumn⟩
      exact ⟨_, mem_findings_iff.mpr ⟨n, line, column, hline, hcolumn, rfl⟩, rfl⟩
  · obtain ⟨n, line, column, hline, hcolumn, rfl⟩ := mem_findings_iff.mp hf
    obtain ⟨p, hp⟩ := exists_firstToFind hcolumn
    exact ⟨n, line, p, hline, rfl, hp, hp.foundAt hcolumn, rfl⟩

end SourceAudit.Baseline
