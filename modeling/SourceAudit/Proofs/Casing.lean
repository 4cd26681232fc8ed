import SourceAudit.Proofs.Baseline.Lines
import SourceAudit.Proofs.Query.Selection
import SourceAudit.Proofs.SortedMap
import SourceAudit.Proofs.Text.Casing
import SourceAudit.Proofs.Text.Lines

/-!
# Literals that do not heed case

Such a literal is compared in lower case, with nodes of a tree and with lines. It ought to match wherever it matches
with its case, but where it opens or ends with a capital sigma its lower case depends on what stands around it.

* `occursIn_heeding`, `occursIn_unheeding` : the texts in which a literal occurs;
* `selects_exchange` : a matcher with one pattern in the place of another;
* `exists_finding_iff` : the lines with a finding; `exists_finding_exchange` : a rule with one pattern in the place of
  another;
* `unheeding_widens_iff` : for which literals it only widens the matches to heed case no more.
-/

namespace SourceAudit

open Query (NodeMatcher PatternSpec ReadyPattern ReadyMatcher)

/-- A member of a list that has a property whenever another one has it can take the place of that one. -/
theorem exists_mem_exchange {α : Type} {p q : α} {front back : List α} {holds : α → Prop} (h : holds p → holds q)
    (hp : ∃ a ∈ front ++ p :: back, holds a) : ∃ a ∈ front ++ q :: back, holds a := by
  obtain ⟨a, ha, hholds⟩ := hp
  rcases List.mem_append.mp ha with ha | ha
  · exact ⟨a, List.mem_append_left _ ha, hholds⟩
  · rcases List.mem_cons.mp ha with rfl | ha
    · exact ⟨q, List.mem_append_right _ List.mem_cons_self, h hholds⟩
    · exact ⟨a, List.mem_append_right _ (List.mem_cons_of_mem q ha), hholds⟩

/-! ## In a tree -/

theorem occursIn_heeding {value : String} {text : List Char} :
    (ReadyPattern.ofSpec ⟨.literal, value, true⟩).occursIn text = true ↔ value.toList <:+: text :=
  Text.find?_isSome_iff

theorem occursIn_unheeding {value : String} {text : List Char} :
    (ReadyPattern.ofSpec ⟨.literal, value, false⟩).occursIn text = true ↔
      Text.lowercase value.toList <:+: Text.lowercase text :=
  Text.find?_isSome_iff

/-- A pattern that occurs wherever another one does can take its place. -/
theorem selects_exchange {p q : PatternSpec} {kinds : StringSet} {front back : List PatternSpec} {node : SyntaxNode}
    (h : ∀ text, (ReadyPattern.ofSpec p).occursIn text = true → (ReadyPattern.ofSpec q).occursIn text = true)
    (hnode : (NodeMatcher.mk kinds (front ++ p :: back)).ready.selects node = true) :
    (NodeMatcher.mk kinds (front ++ q :: back)).ready.selects node = true := by
  rw [ReadyMatcher.selects_iff] at hnode ⊢
  exact ⟨hnode.1, exists_mem_exchange (h _) hnode.2⟩

def nodeOf (text : List Char) : SyntaxNode :=
  { kind := "CallExpression", start := ⟨1, 1⟩, text := String.ofList text, id := 0, parent := none }

theorem selects_nodeOf {p : PatternSpec} {text : List Char} :
    (NodeMatcher.mk (sortedSet ["CallExpression"]) [p]).ready.selects (nodeOf text) = true ↔
      (ReadyPattern.ofSpec p).occursIn text = true := by
  rw [ReadyMatcher.selects_iff, NodeMatcher.Selects]
  simp [nodeOf, Query.matchText, mem_sortedSet]

/-! ## Line by line -/

section Findings

open Baseline (Finds analyze finding)

variable {confidence : Binary64} {context : Nat} {file content : String} {rule : Rule} {n : Nat}

theorem exists_finding_iff : (∃ f ∈ (analyze confidence context file content rule).findings, f.location.line = n) ↔
    ∃ k line, n = k + 1 ∧ (Text.lines content.toList)[k]? = some line ∧ ∃ p ∈ rule.patterns, Finds p line := by
  constructor
  · rintro ⟨f, hf, rfl⟩
    obtain ⟨k, line, column, hline, hcolumn, rfl⟩ := Baseline.mem_findings_iff.mp hf
    exact ⟨k, line, rfl, hline, Baseline.columnIn?_isSome_iff.mp (Option.isSome_iff_exists.mpr ⟨column, hcolumn⟩)⟩
  · rintro ⟨k, line, rfl, hline, hfinds⟩
    obtain ⟨column, hcolumn⟩ := Option.isSome_iff_exists.mp (Baseline.columnIn?_isSome_iff.mpr hfinds)
    exact ⟨_, Baseline.mem_findings_iff.mpr ⟨k, line, column, hline, hcolumn, rfl⟩, rfl⟩

/-- A pattern that matches every line that another one matches can take its place. -/
theorem exists_finding_exchange {p q : RulePattern} {front back : List RulePattern}
    (h : ∀ line, '\n' ∉ line → Finds p line → Finds q line) (hrule : rule.patterns = front ++ p :: back)
    (hf : ∃ f ∈ (analyze confidence context file content rule).findings, f.location.line = n) :
    ∃ f ∈ (analyze confidence context file content { rule with patterns := front ++ q :: back }).findings,
      f.location.line = n := by
  rw [exists_finding_iff] at hf ⊢
  obtain ⟨k, line, rfl, hline, hmatch⟩ := hf
  refine ⟨k, line, rfl, hline, ?_⟩
  have hfeed := Text.not_mem_of_mem_lines (List.mem_of_getElem? hline)
  exact exists_mem_exchange (h line hfeed) (hrule ▸ hmatch)

theorem exists_finding_of_line (rule : Rule) {p : RulePattern} {line : List Char} (hne : line ≠ [])
    (hfeed : '\n' ∉ line) :
    (∃ f ∈ (analyze confidence context file (String.ofList line) { rule with patterns := [p] }).findings,
      f.location.line = 1) ↔ Finds p line := by
  rw [exists_finding_iff, String.toList_ofList, Text.lines_of_line hne hfeed]
  constructor
  · rintro ⟨k, line', hk, hline, q, hq, hfinds⟩
    obtain rfl : k = 0 := (Nat.succ.inj hk).symm
    cases hline
    rwa [← List.mem_singleton.mp hq]
  · intro hfinds
    exact ⟨0, line, rfl, rfl, p, List.mem_singleton.mpr rfl, hfinds⟩

theorem finds_heeding {value : String} {line : List Char} :
    Finds ⟨.literal, value, true⟩ line ↔ value.toList <:+: line := Iff.rfl

theorem finds_unheeding {value : String} {line : List Char} :
    Finds ⟨.literal, value, false⟩ line ↔ Text.lowercase value.toList <:+: Text.lowercase line := Iff.rfl

/-- To heed case no more loses no line exactly if the literal is steady, or is in no line anyway. -/
theorem unheeding_keeps_lines_iff (value : String) :
    (∀ (confidence : Binary64) (context : Nat) (file content : String) (rule : Rule)
      (front back : List RulePattern) (n : Nat),
      rule.patterns = front ++ ⟨.literal, value, true⟩ :: back →
      (∃ f ∈ (analyze confidence context file content rule).findings, f.location.line = n) →
      ∃ f ∈ (analyze confidence context file content
        { rule with patterns := front ++ ⟨.literal, value, false⟩ :: back }).findings, f.location.line = n) ↔
      Text.Steady value.toList ∨ '\n' ∈ value.toList := by
  constructor
  · intro h
    by_cases hfeed : '\n' ∈ value.toList
    · exact .inr hfeed
    · left
      -- a line that holds the literal and a letter beside it
      have hline {line : List Char} (hne : line ≠ []) (hfeed : '\n' ∉ line) (hvalue : value.toList <:+: line) :
          Text.lowercase value.toList <:+: Text.lowercase line := by
        let rule : Rule := { id := "", name := "", severity := .low, patterns := [⟨.literal, value, true⟩] }
        have hfound := h .nan 0 "" (String.ofList line) rule [] [] 1 rfl
          ((exists_finding_of_line rule hne hfeed).mpr (finds_heeding.mpr hvalue))
        exact finds_unheeding.mp ((exists_finding_of_line rule hne hfeed).mp hfound)
      refine Text.steady_of_beside_letter (hline (by simp) ?_ (List.suffix_cons 'A' _).isInfix)
        (hline (by simp) ?_ (List.prefix_append _ ['A']).isInfix)
      · simpa using hfeed
      · simpa using hfeed
  · intro h confidence context file content rule front back n hrule hf
    refine exists_finding_exchange (fun line hfeed hfinds => ?_) hrule hf
    rcases h with hsteady | hvalue
    · exact Text.lowercase_infix hsteady hfinds
    · exact absurd (List.IsInfix.mem hvalue (finds_heeding.mp hfinds)) hfeed

end Findings

/-- **When it only widens the matches of a literal to heed case no more.** It does, for the patterns of matchers and
for those of lines, exactly if the literal is steady: if it has no capital sigma whose lower case depends on what
stands around the literal. A steady literal then loses no node in any matcher and no line in any rule; one that is not
steady loses nodes in some tree, and lines in some file unless it holds a line feed and so is in no line. -/
theorem unheeding_widens_iff (value : String) :
    ((∀ text, (ReadyPattern.ofSpec ⟨.literal, value, true⟩).occursIn text = true →
      (ReadyPattern.ofSpec ⟨.literal, value, false⟩).occursIn text = true) ↔ Text.Steady value.toList) ∧
    ((∀ rule p q line, Baseline.ready rule ⟨.literal, value, true⟩ = .ok (some p) →
      Baseline.ready rule ⟨.literal, value, false⟩ = .ok (some q) → (p.find? line).isSome = true →
      (q.find? line).isSome = true) ↔ Text.Steady value.toList) ∧
    ((∀ kinds front back node,
      (NodeMatcher.mk kinds (front ++ ⟨.literal, value, true⟩ :: back)).ready.selects node = true →
      (NodeMatcher.mk kinds (front ++ ⟨.literal, value, false⟩ :: back)).ready.selects node = true) ↔
        Text.Steady value.toList) ∧
    ((∀ (confidence : Binary64) (context : Nat) (file content : String) (rule : Rule)
      (front back : List RulePattern) (n : Nat),
      rule.patterns = front ++ ⟨.literal, value, true⟩ :: back →
      (∃ f ∈ (Baseline.analyze confidence context file content rule).findings, f.location.line = n) →
      ∃ f ∈ (Baseline.analyze confidence context file content
        { rule with patterns := front ++ ⟨.literal, value, false⟩ :: back }).findings, f.location.line = n) ↔
      Text.Steady value.toList ∨ '\n' ∈ value.toList) := by
  have htexts : (∀ text, (ReadyPattern.ofSpec ⟨.literal, value, true⟩).occursIn text = true →
      (ReadyPattern.ofSpec ⟨.literal, value, false⟩).occursIn text = true) ↔ Text.Steady value.toList := by
    simp only [occursIn_heeding, occursIn_unheeding]
    exact Text.steady_iff.symm
  refine ⟨htexts, ?_, ?_, unheeding_keeps_lines_iff value⟩
  · rw [← htexts]
    constructor
    · intro h text
      exact h { id := "", name := "", severity := .low, patterns := [] } _ _ text rfl rfl
    · intro h rule p q line hp hq
      cases hp
      cases hq
      exact h line
  · rw [← htexts]
    constructor
    · intro h text htext
      exact selects_nodeOf.mp (h (sortedSet ["CallExpression"]) [] [] (nodeOf text) (selects_nodeOf.mpr htext))
    · intro h kinds front back node hnode
      exact selects_exchange h hnode

/-- A capital sigma at the end of a literal is at the end of a word, but not where a letter follows. -/
example : "ΑΣ".toList <:+: "ΑΣΑ".toList ∧ ¬Text.lowercase "ΑΣ".toList <:+: Text.lowercase "ΑΣΑ".toList := by
  decide +kernel

end SourceAudit
