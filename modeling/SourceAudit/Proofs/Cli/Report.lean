import SourceAudit.Cli.Run
import SourceAudit.Proofs.Cli.Listing
import SourceAudit.Proofs.Json.Written
import SourceAudit.Proofs.Outline.Declaration
import SourceAudit.Proofs.Snippet
import SourceAudit.Proofs.Summary
import SourceAudit.Proofs.Text.Lines

/-!
# Reports agree

The three reports of a scan tell the same numbers, and those are the numbers of the findings.

* `lines_linesText_append`, `linesOf_linesText` : the lines of a text that is written line by line;
* `getLast?_textReport` : the last line of a text for a reader;
* `Summary.shown` : the summary in a JSON text; `read?_jsonReport`, `read?_recordReport` : what the JSON document and
  the records say;
* `scanFiles_files` : a finding names one of the scanned files;
* `reports_add_up` : the reports add up and agree.
-/

namespace SourceAudit

open Json (Doc)

/-! ## Lines -/

namespace Cli

/-- Each line ends where it was ended, whatever stands in it. -/
theorem lines_linesText_append (ls : List String) (rest : List Char) :
    Text.lines ((linesText ls).toList ++ rest) = ls.flatMap (fun l => Text.lines (l.toList ++ ['\n'])) ++
      Text.lines rest := by
  induction ls with
  | nil => rfl
  | cons l ls ih =>
    have htext : (linesText (l :: ls)).toList ++ rest = l.toList ++ '\n' :: ((linesText ls).toList ++ rest) := by
      simp [linesText]
    rw [htext, Text.lines_append, ih, List.flatMap_cons, List.append_assoc]

/-- Lines without line ends are read back. -/
theorem linesOf_linesText {ls : List String} (h : ∀ l ∈ ls, Text.IsLine l.toList) :
    Text.linesOf (linesText ls) = ls := by
  have hlines := lines_linesText_append ls []
  have hsingle : ls.flatMap (fun l => Text.lines (l.toList ++ ['\n'])) = ls.flatMap fun l => [l.toList] :=
    List.flatMap_congr fun l hl => Text.lines_append_feed [] (h l hl).no_feed (h l hl).no_return
  rw [List.append_nil, Text.lines, List.append_nil, hsingle, ← List.map_eq_flatMap] at hlines
  rw [Text.linesOf, hlines, List.map_map]
  simp

/-- The last line is read back, whatever stands before it. -/
theorem getLast?_linesText (ls : List String) {l : String} (h : Text.IsLine l.toList) :
    (Text.linesOf (linesText (ls ++ [l]))).getLast? = some l := by
  have hlines := lines_linesText_append (ls ++ [l]) []
  have hlast : Text.lines (l.toList ++ ['\n']) = [l.toList] := Text.lines_append_feed [] h.no_feed h.no_return
  rw [List.append_nil, Text.lines, List.append_nil, List.flatMap_append, List.flatMap_singleton, hlast] at hlines
  rw [Text.linesOf, hlines, List.map_append, List.getLast?_append, List.map_singleton, List.getLast?_singleton,
    String.ofList_toList]
  rfl

/-! ## For a reader -/

theorem isLine_of_append {a b : String} (ha : '\n' ∉ a.toList) (hb : Text.IsLine b.toList) :
    Text.IsLine (a ++ b).toList := by
  rw [String.toList_append]
  refine ⟨List.append_ne_nil_of_right_ne_nil _ hb.ne_nil, ?_, ?_⟩
  · rw [List.mem_append]
    exact not_or.mpr ⟨ha, hb.no_feed⟩
  · rw [List.getLast?_append_of_ne_nil _ hb.ne_nil]
    exact hb.no_return

theorem isLine_closingLine (t : Terminal) (s : Summary) : Text.IsLine (closingLine t s).toList := by
  have hnumber := feed_not_mem_toString
  unfold closingLine
  dsimp only
  split
  · have hpaint : '\n' ∉ (t.paint .boldGreen "ok:").toList := by
      obtain ⟨colored⟩ := t
      cases colored <;> decide
    refine isLine_of_append hpaint (isLine_of_append ?_ ⟨by decide, by decide, by decide⟩)
    simp only [String.toList_append, List.mem_append, not_or]
    exact ⟨by decide, hnumber _⟩
  · refine isLine_of_append ?_ (isLine_of_append ?_ ⟨by decide, by decide, by decide⟩)
    · simp only [String.toList_append, List.mem_append, not_or, and_assoc]
      exact ⟨by decide, hnumber _, by decide, hnumber _, by decide, hnumber _, by decide, hnumber _, by decide⟩
    · simp only [String.toList_append, List.mem_append, not_or, and_assoc]
      exact ⟨hnumber _, by decide, hnumber _, by decide, hnumber _⟩

theorem getLast?_textReport (t : Terminal) (snippets : Bool) (fs : List Finding) (totalFiles : Nat) :
    (Text.linesOf (textReport t snippets fs totalFiles)).getLast? = some (closingLine t (.ofFindings fs totalFiles)) :=
  getLast?_linesText _ (isLine_closingLine t _)

end Cli

/-! ## For programs -/

namespace Summary

def number (n : Nat) : Doc := .word (toString n)

/-- The fields of a summary in a JSON text. -/
def shown (s : Summary) : List (String × Doc) :=
  let c := s.bySeverity
  [("total_files", number s.totalFiles), ("files_with_findings", number s.filesWithFindings),
    ("total_findings", number s.totalFindings),
    ("by_severity", .object [("critical", number c.critical), ("high", number c.high), ("medium", number c.medium),
      ("low", number c.low), ("info", number c.info)]),
    ("by_category", .object (s.byCategory.entries.map fun (category, n) => (category, number n)))]

theorem docFields_map (f : Nat → Json) (es : List (String × Nat)) :
    Json.docFields (es.map fun (k, n) => (k, f n)) = es.map fun (k, n) => (k, (f n).doc) := by
  induction es with
  | nil => rfl
  | cons e es ih => rw [List.map_cons, Json.docFields, ih, List.map_cons]

theorem docFields_fields (s : Summary) : Json.docFields s.fields = s.shown := by
  have hcategories : (Json.ofMap .nat s.byCategory).doc =
      .object (s.byCategory.entries.map fun (k, n) => (k, number n)) := by
    rw [Json.ofMap, Json.doc, docFields_map]
    rfl
  rw [fields, shown, ← hcategories]
  rfl

end Summary

namespace Cli

theorem docItems_eq_map (js : List Json) : Json.docItems js = js.map Json.doc := by
  induction js with
  | nil => rfl
  | cons j js ih => rw [Json.docItems, ih, List.map_cons]

def findingFields (suffix : Nat → String) (i : Nat) (f : Finding) : List (String × Doc) :=
  Json.docFields (fieldsOf (f.toJson (suffix i)))

theorem read?_jsonReport (suffix : Nat → String) (o : Origin) (fs : List Finding) (totalFiles : Nat) :
    Json.read? (jsonReport suffix o fs totalFiles) = some (.object [("version", .text "1.0"),
      ("metadata", .object (Json.docFields o.fields)), ("summary", .object (Summary.ofFindings fs totalFiles).shown),
      ("findings", .array (fs.mapIdx fun i f => .object (findingFields suffix i f)))]) := by
  have hfindings : Json.docItems (findingValues suffix fs) = fs.mapIdx fun i f =>
      .object (findingFields suffix i f) := by
    rw [docItems_eq_map, findingValues, List.map_map, List.mapIdx_eq_zipIdx_map]
    rfl
  rw [jsonReport, Json.read?_pretty_feed, ← hfindings, ← Summary.docFields_fields]
  rfl

def shownRecord (type : String) (fields : List (String × Doc)) : Doc := .object (("type", .text type) :: fields)

theorem isLine_recordLine (type : String) (fields : List (String × Json)) :
    Text.IsLine (recordLine type fields).toList := by
  have htext : ∃ inner, (recordLine type fields).toList = inner ++ ['\x7d'] := by
    rw [recordLine, Json.compact]
    exact ⟨_, String.toList_append⟩
  obtain ⟨inner, htext⟩ := htext
  have hfeed : '\n' ∉ (recordLine type fields).toList := Json.feed_not_mem_compact _
  rw [htext] at hfeed ⊢
  refine ⟨List.append_ne_nil_of_right_ne_nil _ (List.cons_ne_nil _ _), hfeed, ?_⟩
  rw [List.getLast?_concat]
  decide

theorem read?_recordLine (type : String) (fields : List (String × Json)) :
    Json.read? (recordLine type fields) = some (shownRecord type (Json.docFields fields)) := by
  rw [recordLine, Json.read?_compact]
  rfl

theorem read?_recordLines (rs : List (String × List (String × Json))) :
    (Text.linesOf (linesText (rs.map fun r => recordLine r.1 r.2))).map Json.read? =
      rs.map fun r => some (shownRecord r.1 (Json.docFields r.2)) := by
  have hlines : ∀ l ∈ rs.map fun r => recordLine r.1 r.2, Text.IsLine l.toList := by
    intro l hl
    obtain ⟨r, -, rfl⟩ := List.mem_map.mp hl
    exact isLine_recordLine r.1 r.2
  rw [linesOf_linesText hlines, List.map_map]
  exact List.map_congr_left fun r _ => read?_recordLine r.1 r.2

theorem read?_recordReport (suffix : Nat → String) (o : Origin) (fs : List Finding) (totalFiles : Nat) :
    (Text.linesOf (recordReport suffix o fs totalFiles)).map Json.read? =
      some (shownRecord "metadata" (Json.docFields o.fields)) ::
        (fs.mapIdx (fun i f => some (shownRecord "finding" (findingFields suffix i f))) ++
          [some (shownRecord "summary" (Summary.ofFindings fs totalFiles).shown)]) := by
  have hread := read?_recordLines
    (("metadata", o.fields) :: ((findingValues suffix fs).map (fun f => ("finding", fieldsOf f)) ++
      [("summary", (Summary.ofFindings fs totalFiles).fields)]))
  simp only [List.map_cons, List.map_append, List.map_map, List.map_nil, findingValues,
    Summary.docFields_fields] at hread
  rw [recordReport, findingValues, List.map_map, List.mapIdx_eq_zipIdx_map]
  exact hread

end Cli

/-! ## Scanned files -/

theorem Analysis.Made.file_eq {ctx : Context} {f : Finding} (h : Made ctx f) : f.file = ctx.file := by
  cases h with
  | flow =>
    unfold Context.flowFinding Finding.withFallback
    dsimp only
    split
    · split <;> rfl
    · rfl
  | selected => rfl
  | legacy =>
    unfold Context.legacyFinding
    dsimp only
    split <;> rfl

theorem Baseline.file_of_mem_analyze {confidence : Binary64} {context : Nat} {file content : String} {rule : Rule}
    {f : Finding} (hf : f ∈ (Baseline.analyze confidence context file content rule).findings) : f.file = file := by
  obtain ⟨⟨line, number⟩, -, h⟩ := List.mem_filterMap.mp hf
  obtain ⟨column, -, rfl⟩ := Option.map_eq_some_iff.mp h
  rfl

theorem Scanner.file_of_mem_scan {s : Scanner} {file content : String} {report : Report} {f : Finding}
    (h : s.scan file content = .ok report) (hf : f ∈ report.findings) : f.file = file := by
  obtain ⟨tree, r, -, g, hg, rfl⟩ := mem_findings_scan h hf
  show g.file = file
  rcases mem_ruleReport hg with hline | hmade
  · exact Baseline.file_of_mem_analyze hline
  · exact hmade.file_eq

namespace Cli

open Outline (Yields)

variable {fsys : FileSystem} {scanner : Scanner}

theorem scanFile_files (file : FoundFile) :
    Yields (scanFile fsys scanner file) fun report => ∀ f ∈ report.findings, f.file = file.path := by
  intro report h f hf
  unfold scanFile at h
  split at h
  · exact Scanner.file_of_mem_scan h hf
  · cases h
    cases hf

theorem scanFiles_files (files : List FoundFile) :
    Yields (scanFiles fsys scanner files) fun report => ∀ f ∈ report.findings, f.file ∈ files.map FoundFile.path := by
  refine (Yields.mapM (Q := fun report => ∀ f ∈ report.findings, f.file ∈ files.map FoundFile.path) fun file hfile =>
    (scanFile_files file).mono ?_).bind fun reports hreports => .ok ?_
  · intro report hreport f hf
    rw [hreport f hf]
    exact List.mem_map_of_mem hfile
  · intro f hf
    obtain ⟨report, hreport, hf⟩ := List.mem_flatMap.mp hf
    exact hreports report hreport f hf

theorem filesWithFindings_le {fs : List Finding} {files : List FoundFile}
    (h : ∀ f ∈ fs, f.file ∈ files.map FoundFile.path) :
    (Summary.ofFindings fs files.length).filesWithFindings ≤ files.length := by
  have hlength : (files.map FoundFile.path).length = files.length := List.length_map FoundFile.path
  rw [(Summary.addsUp_ofFindings fs files.length).distinct_files, ← hlength]
  refine le_trans (Finset.card_le_card ?_) (List.toFinset_card_le _)
  intro file hfile
  rw [List.mem_toFinset] at hfile ⊢
  obtain ⟨f, hf, rfl⟩ := List.mem_map.mp hfile
  exact h f hf

/-- **Reports add up and agree.** The numbers of a summary are the numbers of the findings. The last line of the text
for a reader, the summary in the JSON document and the last record tell the same numbers. The records are one about
the scan, one for each finding, in order, and the summary; the JSON document lists the same findings. When files are
scanned, no more of them have findings of some severity than there are. -/
theorem reports_add_up (t : Terminal) (snippets : Bool) (suffix : Nat → String) (o : Origin) (fs : List Finding)
    (totalFiles : Nat) :
    let s := Summary.ofFindings fs totalFiles
    let c := s.bySeverity
    s.AddsUp fs totalFiles ∧
    (Text.linesOf (textReport t snippets fs totalFiles)).getLast? = some (
      if s.totalFindings = 0 then t.paint .boldGreen "ok:" ++ s!" No findings in {s.totalFiles} file(s)"
      else s!"Found {s.totalFindings} finding(s) in {s.totalFiles} file(s): {c.critical} critical, {c.high} high, " ++
        s!"{c.medium} medium, {c.low} low, {c.info} info") ∧
    Json.read? (jsonReport suffix o fs totalFiles) = some (.object [("version", .text "1.0"),
      ("metadata", .object (Json.docFields o.fields)), ("summary", .object s.shown),
      ("findings", .array (fs.mapIdx fun i f => .object (findingFields suffix i f)))]) ∧
    (Text.linesOf (recordReport suffix o fs totalFiles)).map Json.read? =
      some (shownRecord "metadata" (Json.docFields o.fields)) ::
        (fs.mapIdx (fun i f => some (shownRecord "finding" (findingFields suffix i f))) ++
          [some (shownRecord "summary" s.shown)]) ∧
    ∀ (fsys : FileSystem) (scanner : Scanner) (files : List FoundFile) (report : Report) (least : Severity),
      scanFiles fsys scanner files = .ok report →
      let scanned := Summary.ofFindings (report.findings.filter fun f => f.severity.atLeast least) files.length
      scanned.filesWithFindings ≤ scanned.totalFiles := by
  refine ⟨Summary.addsUp_ofFindings fs totalFiles, getLast?_textReport t snippets fs totalFiles,
    read?_jsonReport suffix o fs totalFiles, read?_recordReport suffix o fs totalFiles,
    fun fsys scanner files report least h => ?_⟩
  exact filesWithFindings_le fun f hf => scanFiles_files files report h f (List.mem_filter.mp hf).1

/-- Two findings in one of two files, of which the second cannot be read. -/
theorem reports_add_up_two_files :
    let rule : Rule := { id := "call", name := "call", severity := .high, patterns := [⟨.literal, "eval(", true⟩] }
    let scanner : Scanner := ⟨.inserted [rule], {}⟩
    let fsys : FileSystem := ⟨.dir [("a.py", .file (some "eval(x)\neval(y)")), ("b.py", .file none)], []⟩
    ∃ report, scanFiles fsys scanner ["a.py", "b.py"] = .ok report ∧ report.findings.length = 2 ∧
      let kept := report.findings.filter fun f => f.severity.atLeast .medium
      let s := Summary.ofFindings kept 2
      s.AddsUp kept 2 ∧ s.filesWithFindings ≤ s.totalFiles := by
  intro rule scanner fsys
  let first := scanner.reportOf "a.py" "eval(x)\neval(y)" .empty (scanner.rulesFor "a.py")
  have hfirst : scanFile fsys scanner "a.py" = .ok first :=
    Scanner.scan_of_no_queries (s := scanner) (by decide) "a.py" "eval(x)\neval(y)"
  obtain ⟨second, hsecond, hnone⟩ : ∃ r, scanFile fsys scanner "b.py" = .ok r ∧ r.findings = [] := ⟨_, rfl, rfl⟩
  have hscan : scanFiles fsys scanner ["a.py", "b.py"] = .ok (.concat [first, second]) := by
    rw [scanFiles, List.mapM_cons, hfirst, List.mapM_cons, hsecond]
    rfl
  have hlength : first.findings.length = 2 := by
    dsimp only [first]
    rw [Scanner.reportOf, Scanner.settle_eq, List.length_mergeSort]
    decide +kernel
  obtain ⟨hadds, -, -, -, hfiles⟩ := reports_add_up ⟨false⟩ true toString ⟨"/", "."⟩ _ 2
  refine ⟨_, hscan, ?_, hadds, hfiles fsys scanner ["a.py", "b.py"] _ .medium hscan⟩
  simpa [Report.concat, hnone] using hlength

end Cli

end SourceAudit
