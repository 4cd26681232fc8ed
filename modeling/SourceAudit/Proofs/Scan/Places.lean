import SourceAudit.Proofs.Outline.Origin
import SourceAudit.Proofs.Scan.Merge
import SourceAudit.Proofs.Snippet
import SourceAudit.Proofs.Taint.Flow

/-!
# Findings point into their file

* `Finding.PointsInto file content f` : the finding is in the file, on a line of its text, and its snippet is about
  that line;
* `Baseline.pointsInto_of_mem_analyze` : findings on single lines;
* `LegacyPattern.run_within` : hits of older patterns, by node and by flow from line to line;
* `Analysis.Made.pointsInto` : findings of queries, over a tree whose nodes start on lines of the text;
* `Scanner.scan_points_into` : every finding of a scan.
-/

namespace SourceAudit

variable {file content : String} {f : Finding}

/-- The finding is in the file, on a line of its text, and its snippet is about that line. -/
structure Finding.PointsInto (file content : String) (f : Finding) : Prop where
  file_eq : f.file = file
  within : f.location.Within (Text.lines content.toList).length
  shown : ∃ context, f.snippet = SourceAudit.snippet content f.location.line context

namespace Finding

theorem pointsInto_ofRule {location : Location} (h : location.Within (Text.lines content.toList).length) (rule : Rule)
    (context : Nat) (confidence : Binary64) :
    (ofRule rule file content location context confidence).PointsInto file content := ⟨rfl, h, context, rfl⟩

/-! What is added to a finding, or said otherwise, does not move it. -/

theorem PointsInto.reworded (h : f.PointsInto file content) (severity : Severity) (description : String) :
    Finding.PointsInto file content { f with severity, description } := ⟨h.file_eq, h.within, h.shown⟩

theorem PointsInto.withExtra (h : f.PointsInto file content) (key : String) (value : Json) :
    (f.withExtra key value).PointsInto file content := ⟨h.file_eq, h.within, h.shown⟩

theorem PointsInto.withFallback (h : f.PointsInto file content) (recommendation : Option String) :
    (f.withFallback recommendation).PointsInto file content := by
  unfold Finding.withFallback
  cases recommendation with
  | none => exact h
  | some r =>
    dsimp only
    by_cases hgeneric : f.fix.recommendation = genericFix
    · rw [if_pos hgeneric]
      exact ⟨h.file_eq, h.within, h.shown⟩
    · rw [if_neg hgeneric]
      exact h

end Finding

/-! ## Single lines -/

theorem Baseline.columnAt_pos (line : List Char) (offset : Nat) : 1 ≤ columnAt line offset := by
  unfold columnAt Text.columnAt?
  cases Text.takeBytes? line offset with
  | none => exact Nat.le_add_left 1 offset
  | some lead => exact Nat.le_add_left 1 lead.length

theorem Baseline.pointsInto_of_mem_analyze {confidence : Binary64} {context : Nat} {rule : Rule}
    (hf : f ∈ (Baseline.analyze confidence context file content rule).findings) : f.PointsInto file content := by
  obtain ⟨⟨line, number⟩, hline, h⟩ := List.mem_filterMap.mp hf
  obtain ⟨column, hcolumn, rfl⟩ := Option.map_eq_some_iff.mp h
  obtain ⟨offset, -, rfl⟩ := Option.map_eq_some_iff.mp hcolumn
  obtain ⟨hpos, hlt, -⟩ := List.mem_zipIdx hline
  refine Finding.pointsInto_ofRule ⟨hpos, ?_, columnAt_pos line offset⟩ rule context _
  show number ≤ (Text.lines content.toList).length
  omega

/-! ## Older patterns -/

namespace LegacyPattern

variable {source sink : TextPattern} {hit : Hit} {number : Nat} {tree : SyntaxTree}

theorem mentionColumn?_pos {target line : List Char} {column : Nat} (h : mentionColumn? target line = some column) :
    1 ≤ column := by
  obtain ⟨m, -, h⟩ := Option.bind_eq_some_iff.mp h
  obtain ⟨offset, -, rfl⟩ := Option.map_eq_some_iff.mp h
  exact Nat.le_add_left 1 _

theorem reached_places {target : List Char} {later : List (List Char)}
    (h : hit ∈ reached source sink number target later) :
    number < hit.location.line ∧ hit.location.line ≤ number + later.length ∧ 1 ≤ hit.location.column := by
  obtain ⟨⟨line, n⟩, hline, h⟩ := List.mem_filterMap.mp h
  obtain ⟨hle, hlt, -⟩ := List.mem_zipIdx hline
  dsimp only at h
  by_cases hsink : sink.regex.isMatch line = true
  · rw [if_pos hsink] at h
    obtain ⟨column, hcolumn, rfl⟩ := Option.map_eq_some_iff.mp h
    refine ⟨hle, ?_, mentionColumn?_pos hcolumn⟩
    show n ≤ number + later.length
    omega
  · rw [if_neg hsink] at h
    cases h

/-- By induction on the lines: those of an assignment come after it, and the others are found from the next line on. -/
theorem flowFrom_places {lines : List (List Char)} (h : hit ∈ flowFrom source sink number lines) :
    number < hit.location.line ∧ hit.location.line < number + lines.length ∧ 1 ≤ hit.location.column := by
  induction lines generalizing number with
  | nil => cases h
  | cons line later ih =>
    rw [flowFrom] at h
    rw [List.length_cons]
    rcases List.mem_append.mp h with h | h
    · cases hassigned : assigned? line with
      | none =>
        rw [hassigned] at h
        cases h
      | some assignment =>
        rw [hassigned] at h
        dsimp only at h
        by_cases hsource : (source.regex.isMatch assignment.2 && isMentionable assignment.1) = true
        · rw [if_pos hsource] at h
          obtain ⟨hlt, hle, hcolumn⟩ := reached_places h
          exact ⟨hlt, by omega, hcolumn⟩
        · rw [if_neg hsource] at h
          cases h
    · obtain ⟨hlt, hle, hcolumn⟩ := ih h
      exact ⟨by omega, by omega, hcolumn⟩

theorem run_within (p : LegacyPattern)
    (htree : ∀ node ∈ tree.nodes, node.start.Within (Text.lines content.toList).length)
    (h : hit ∈ p.run tree content) : hit.location.Within (Text.lines content.toList).length := by
  cases p with
  | selector kind name =>
    obtain ⟨node, hnode, rfl⟩ := List.mem_map.mp h
    exact htree node (Array.mem_toList_iff.mp (List.mem_filter.mp hnode).1)
  | flow source sink =>
    obtain ⟨hlt, hle, hcolumn⟩ := flowFrom_places h
    exact ⟨Nat.le_of_lt hlt, by omega, hcolumn⟩

end LegacyPattern

/-! ## Queries -/

namespace Analysis

variable {ctx : Context}

/-- One case for each way in which a query makes a finding. -/
theorem Made.pointsInto (htree : ∀ node ∈ ctx.tree.nodes, node.start.Within (Text.lines ctx.content.toList).length)
    (h : Made ctx f) : f.PointsInto ctx.file ctx.content := by
  cases h with
  | @flow source sink sanitizers flow hflow =>
    obtain ⟨i, j, -, rfl⟩ := (Taint.mem_flows_iff ..).mp hflow
    have hsink := htree ctx.tree.nodes[j] (Array.getElem_mem j.isLt)
    have hfinding : (ctx.finding ctx.tree.nodes[j].start ctx.confidence).PointsInto ctx.file ctx.content :=
      Finding.pointsInto_ofRule hsink ctx.rule _ _
    unfold Context.flowFinding
    iterate 5 apply Finding.PointsInto.withExtra
    apply Finding.PointsInto.withFallback
    exact hfinding.reworded _ _
  | @selected matcher reason m hm =>
    obtain ⟨node, hnode, hm⟩ := List.mem_filterMap.mp hm
    obtain ⟨spec, -, rfl⟩ := Option.map_eq_some_iff.mp hm
    have hstart := htree node (Array.mem_toList_iff.mp hnode)
    exact (Finding.pointsInto_ofRule hstart ctx.rule _ _).withExtra _ _
  | @legacy p hit pattern hhit =>
    have hbase : (ctx.finding hit.location ctx.options.legacyConfidence).PointsInto ctx.file ctx.content :=
      Finding.pointsInto_ofRule (p.run_within htree hhit) ctx.rule _ _
    unfold Context.legacyFinding
    cases hit.target with
    | none => exact (hbase.withExtra _ _).withExtra _ _
    | some v => exact ((hbase.withExtra _ _).withExtra _ _).withExtra _ _

end Analysis

/-! ## Scans -/

namespace Scanner

variable {s : Scanner} {tree : SyntaxTree} {rule : Rule}

theorem treeFor_starts {rules : List Rule} (h : treeFor rules file content = .ok tree) :
    ∀ node ∈ tree.nodes, node.start.Within (Text.lines content.toList).length := by
  unfold treeFor at h
  by_cases hquery : (rules.any (·.hasQueryPatterns)) = true
  · rw [if_pos hquery] at h
    exact fun node hnode => Outline.start_within_of_buildTree h hnode
  · rw [if_neg hquery] at h
    cases h
    exact fun node hnode => absurd hnode (Array.not_mem_empty node)

theorem pointsInto_of_mem_ruleReport (htree : ∀ node ∈ tree.nodes, node.start.Within (Text.lines content.toList).length)
    (hf : f ∈ (s.ruleReport file content tree rule).findings) : f.PointsInto file content := by
  rcases mem_ruleReport hf with hline | hmade
  · exact Baseline.pointsInto_of_mem_analyze hline
  · exact hmade.pointsInto htree

theorem pointsInto_of_mem_settle {config : Config} {fs : List Finding} (h : ∀ g ∈ fs, g.PointsInto file content)
    (hf : f ∈ settle config fs) : f.PointsInto file content := by
  rw [settle_eq, List.mem_mergeSort] at hf
  obtain ⟨g, hg, rfl⟩ := List.mem_map.mp (List.mem_filter.mp hf).1
  exact (h g hg).reworded _ g.description

/-- **Every finding of a scan points into the scanned file.** Its line is one of the lines of the text, its column is
at least one, and its snippet is not empty and marks exactly one line: the line of the finding, without the blanks at
its end. -/
theorem scan_points_into (s : Scanner) (file content : String) (report : Report) (h : s.scan file content = .ok report)
    (f : Finding) (hf : f ∈ report.findings) :
    f.file = file ∧ 1 ≤ f.location.line ∧ f.location.line ≤ (Text.lines content.toList).length ∧ 1 ≤ f.location.column ∧
    f.snippet ≠ "" ∧
    ∃ text width, (Text.lines content.toList)[f.location.line - 1]? = some text ∧
      (Text.linesOf f.snippet).filter isMarked =
        ["> " ++ padLeft width (toString f.location.line) ++ " | " ++ String.ofList (Text.trimEnd text)] := by
  rw [scan_eq] at h
  cases htree : treeFor (s.rulesFor file) file content with
  | error e =>
    rw [htree] at h
    cases h
  | ok tree =>
    rw [htree] at h
    cases h
    have hpoints : f.PointsInto file content := by
      refine pointsInto_of_mem_settle (fun g hg => ?_) hf
      obtain ⟨rule, -, hg⟩ := List.mem_flatMap.mp hg
      exact pointsInto_of_mem_ruleReport (treeFor_starts htree) hg
    obtain ⟨hpos, hle, hcolumn⟩ := hpoints.within
    obtain ⟨context, hsnippet⟩ := hpoints.shown
    rw [hsnippet]
    exact ⟨hpoints.file_eq, hpos, hle, hcolumn, snippet_ne_empty hpos hle context, snippet_marks hpos hle context⟩

/-- A finding on the last line, which has no line end and holds a carriage return. -/
theorem scan_points_into_last_line :
    let rule : Rule := { id := "call", name := "call", severity := .high, patterns := [⟨.literal, "eval(", true⟩] }
    let s : Scanner := ⟨.inserted [rule], {}⟩
    let content := "import os\r\n\n\r eval(x) "
    ∃ report, s.scan "a.py" content = .ok report ∧ report.findings.length = 1 ∧ ∀ f ∈ report.findings,
      f.file = "a.py" ∧ 1 ≤ f.location.line ∧ f.location.line ≤ (Text.lines content.toList).length ∧
      1 ≤ f.location.column ∧ f.snippet ≠ "" ∧
      ∃ text width, (Text.lines content.toList)[f.location.line - 1]? = some text ∧
        (Text.linesOf f.snippet).filter isMarked =
          ["> " ++ padLeft width (toString f.location.line) ++ " | " ++ String.ofList (Text.trimEnd text)] := by
  intro rule s content
  have hscan := scan_of_no_queries (s := s) (by decide) "a.py" content
  refine ⟨_, hscan, ?_, scan_points_into s _ _ _ hscan⟩
  rw [reportOf, settle_eq, List.length_mergeSort]
  decide +kernel

end Scanner

end SourceAudit
