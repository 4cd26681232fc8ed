import Mathlib.Data.List.Forall2
import Mathlib.Data.List.GetD
import SourceAudit.Proofs.Snippet

/-!
# The window of a snippet

* `ShowsLine` : what a row of a snippet shows of a line, with the number in a field of a given width;
* `length_toString_le` : a greater number is not shorter, so that every shown number fits into the field of the last
  one;
* `shown_eq` : the lines that are shown are those with the numbers from the first to the last;
* `splitOn_snippet` : each of them is a row of the snippet;
* `snippet_window` : all that a snippet shows.
-/

namespace SourceAudit

variable {content : String} {lines : List (List Char)} {text : List Char} {width line number : Nat}

/-! ## Rows -/

/-- The row shows a line: a mark, the number of the line at the right end of a field, and the text of the line without
the blanks at its end. -/
def ShowsLine (width : Nat) (mark : Char) (number : Nat) (text row : List Char) : Prop :=
  ∃ pad shown blanks, row =
    mark :: ' ' :: (List.replicate pad ' ' ++ (toString number).toList ++ [' ', '|', ' '] ++ shown) ∧
    pad + (toString number).length = width ∧ text = shown ++ blanks ∧ (∀ c ∈ blanks, Text.isBlank c = true) ∧
    ∀ c, shown.getLast? = some c → Text.isBlank c = false

theorem ShowsLine.head? {mark : Char} {row : List Char} (h : ShowsLine width mark number text row) :
    row.head? = some mark := by
  obtain ⟨pad, shown, blanks, rfl, -⟩ := h
  rfl

theorem length_toString_le {n m : Nat} (h : n ≤ m) : (toString n).length ≤ (toString m).length := by
  have hm : m < 10 ^ m.repr.length := (Nat.length_repr_le_iff Nat.length_repr_pos).mp (Nat.le_refl _)
  exact (Nat.length_repr_le_iff Nat.length_repr_pos).mpr (Nat.lt_of_le_of_lt h hm)

/-- A written line shows its line, if its number fits into the field. -/
theorem showsLine_snippetLine (line : Nat) (text : List Char) (hfits : (toString number).length ≤ width) :
    ShowsLine width (if number = line then '>' else ' ') number text
      (snippetLine width line (text, number)).toList := by
  obtain ⟨blanks, htext, hblanks, hlast⟩ := Text.dropEndWhile_spec Text.isBlank text
  refine ⟨width - (toString number).length, Text.trimEnd text, blanks, ?_, Nat.sub_add_cancel hfits, htext, hblanks, ?_⟩
  · have hbar : " | ".toList = [' ', '|', ' '] := by decide
    rw [toList_snippetLine, padLeft, String.toList_append, String.toList_ofList, hbar]
  · intro c hc
    obtain ⟨front, hfront⟩ := List.getLast?_eq_some_iff.mp hc
    exact hlast front c hfront

/-! ## Windows -/

def rowOf (width line : Nat) (lines : List (List Char)) (number : Nat) : List Char :=
  (snippetLine width line (lines.getD (number - 1) [], number)).toList

section Window

variable {first last : Nat}

/-- Of numbered lines, a stretch of them has the numbers of the stretch. -/
theorem shown_eq (hfirst : 1 ≤ first) (hlast : last ≤ lines.length) :
    ((lines.zipIdx 1).drop (first - 1)).take (last + 1 - first) =
      (List.range' first (last + 1 - first)).map fun number => (lines.getD (number - 1) [], number) := by
  refine List.ext_getElem? fun i => ?_
  rw [List.getElem?_take, List.getElem?_map]
  by_cases hi : i < last + 1 - first
  · have hbound : first - 1 + i < lines.length := by omega
    rw [if_pos hi, List.getElem?_drop, List.getElem?_zipIdx, List.getElem?_range' hi, List.getElem?_eq_getElem hbound]
    have hindex : first + 1 * i - 1 = first - 1 + i := by omega
    have hnumber : 1 + (first - 1 + i) = first + 1 * i := by omega
    rw [Option.map_some, Option.map_some, hindex, hnumber, List.getD_eq_getElem _ _ hbound]
  · rw [if_neg hi, List.getElem?_eq_none (by simpa using hi)]
    rfl

theorem showsLine_rowOf (line : Nat) (hpos : 1 ≤ number) (hle : number ≤ last) (hlast : last ≤ lines.length) :
    ∃ text, lines[number - 1]? = some text ∧
      ShowsLine (toString last).length (if number = line then '>' else ' ') number text
        (rowOf (toString last).length line lines number) := by
  have hbound : number - 1 < lines.length := by omega
  refine ⟨_, List.getElem?_eq_getElem hbound, ?_⟩
  rw [rowOf, List.getD_eq_getElem _ _ hbound]
  exact showsLine_snippetLine line _ (length_toString_le hle)

/-- The numbers before a number of the window, the number, and those after it. -/
theorem range'_around (hfirst : first ≤ line) (hlast : line ≤ last) :
    List.range' first (last + 1 - first) =
      List.range' first (line - first) ++ line :: List.range' (line + 1) (last - line) := by
  have hline : first + 1 * (line - first) = line := by omega
  have hcount : last + 1 - first = line - first + (last - line + 1) := by omega
  rw [hcount, ← List.range'_append, hline, List.range'_succ]

theorem marked_row (hpos : 1 ≤ first) (hfirst : first ≤ line) (hline : line ≤ last) (hlast : last ≤ lines.length) :
    ∃ before marked after text,
      (List.range' first (last + 1 - first)).map (rowOf (toString last).length line lines) = before ++ marked :: after ∧
      lines[line - 1]? = some text ∧ ShowsLine (toString last).length '>' line text marked ∧
      ∀ row ∈ before ++ after, row.head? = some ' ' := by
  obtain ⟨text, htext, hshow⟩ := showsLine_rowOf line (Nat.le_trans hpos hfirst) hline hlast
  rw [if_pos rfl] at hshow
  -- a row with another number has no mark
  have hother {number : Nat} (h : first ≤ number ∧ number ≤ last ∧ number ≠ line) :
      (rowOf (toString last).length line lines number).head? = some ' ' := by
    obtain ⟨_, -, hunmarked⟩ := showsLine_rowOf line (Nat.le_trans hpos h.1) h.2.1 hlast
    rw [if_neg h.2.2] at hunmarked
    exact hunmarked.head?
  refine ⟨(List.range' first (line - first)).map (rowOf (toString last).length line lines),
    rowOf (toString last).length line lines line,
    (List.range' (line + 1) (last - line)).map (rowOf (toString last).length line lines), text, ?_, htext, hshow, ?_⟩
  · rw [range'_around hfirst hline, List.map_append, List.map_cons]
  · rw [← List.map_append]
    intro row hrow
    obtain ⟨number, hnumber, rfl⟩ := List.mem_map.mp hrow
    apply hother
    rcases List.mem_append.mp hnumber with h | h
    · have hrange := List.mem_range'_1.mp h
      omega
    · have hrange := List.mem_range'_1.mp h
      omega

end Window

/-! ## All that a snippet shows -/

theorem toList_snippet (hlines : Text.lines content.toList = lines) (hpos : 1 ≤ line) (hle : line ≤ lines.length)
    (context : Nat) :
    (snippet content line context).toList = ['\n'].intercalate
      ((List.range' (max 1 (line - context)) (min (line + context) lines.length + 1 - max 1 (line - context))).map
        (rowOf (toString (min (line + context) lines.length)).length line lines)) := by
  have hline : ¬(line = 0 || lines.length < line) = true := by
    rw [Bool.or_eq_true, decide_eq_true_eq, decide_eq_true_eq]
    omega
  have hfeed : "\n".toList = ['\n'] := by decide
  unfold snippet
  dsimp only
  rw [hlines, if_neg hline, Nat.max_comm, shown_eq (Nat.le_max_left 1 _) (Nat.min_le_right _ _), Text.joinLines,
    String.toList_intercalate, hfeed, List.map_map, List.map_map]
  rfl

/-- The rows of a snippet are those of the numbers in its window, since none of them holds a line feed. -/
theorem splitOn_snippet (hlines : Text.lines content.toList = lines) (hpos : 1 ≤ line) (hle : line ≤ lines.length)
    (context : Nat) :
    (snippet content line context).toList.splitOn '\n' =
      (List.range' (max 1 (line - context)) (min (line + context) lines.length + 1 - max 1 (line - context))).map
        (rowOf (toString (min (line + context) lines.length)).length line lines) := by
  rw [toList_snippet hlines hpos hle context]
  refine List.splitOn_intercalate '\n' (fun row hrow => ?_) ?_
  · obtain ⟨number, hnumber, rfl⟩ := List.mem_map.mp hrow
    have hrange := List.mem_range'_1.mp hnumber
    have hbound : number - 1 < lines.length := by omega
    have hmem : lines[number - 1] ∈ Text.lines content.toList := hlines ▸ List.getElem_mem hbound
    rw [rowOf, List.getD_eq_getElem _ _ hbound]
    exact (isLine_snippetLine (Text.not_mem_of_mem_lines hmem)).no_feed
  · rw [ne_eq, List.map_eq_nil_iff, List.range'_eq_nil_iff]
    omega

/-- **A snippet shows exactly the window that is asked for.** It is empty exactly if there is no such line. Otherwise
its rows show the lines at most `context` away, one after the other, with their numbers in fields as wide as the last
number; one of them is marked and shows the line that is asked for, and the others start with a space. -/
theorem snippet_window (content : String) (line context : Nat) :
    let lines := Text.lines content.toList
    let first := max 1 (line - context)
    let last := min (line + context) lines.length
    let rows := (snippet content line context).toList.splitOn '\n'
    (snippet content line context = "" ↔ line = 0 ∨ lines.length < line) ∧
    (1 ≤ line → line ≤ lines.length →
      List.Forall₂ (fun number row => ∃ text, lines[number - 1]? = some text ∧
        ShowsLine (toString last).length (if number = line then '>' else ' ') number text row)
        (List.range' first (last + 1 - first)) rows ∧
      ∃ before marked after text, rows = before ++ marked :: after ∧ lines[line - 1]? = some text ∧
        ShowsLine (toString last).length '>' line text marked ∧ ∀ row ∈ before ++ after, row.head? = some ' ') := by
  intro lines first last rows
  refine ⟨⟨fun hempty => ?_, fun hline => ?_⟩, fun hpos hle => ?_⟩
  · refine Decidable.byContradiction fun hline => snippet_ne_empty ?_ ?_ context hempty
    · omega
    · show line ≤ lines.length
      omega
  · unfold snippet
    dsimp only
    rw [if_pos (by simpa using hline)]
  · have hrows : rows = (List.range' first (last + 1 - first)).map (rowOf (toString last).length line lines) :=
      splitOn_snippet rfl hpos hle context
    have hlast : last ≤ lines.length := Nat.min_le_right _ _
    rw [hrows]
    refine ⟨List.forall₂_map_right_iff.mpr (List.forall₂_same.mpr fun number hnumber => ?_), ?_⟩
    · have hrange := List.mem_range'_1.mp hnumber
      exact showsLine_rowOf line (show 1 ≤ number by omega) (show number ≤ last by omega) hlast
    · exact marked_row (Nat.le_max_left 1 _) (by omega) (by omega) hlast

/-- Around the ninth of ten lines, where numbers get wider: it holds carriage returns, and no line feed ends the last
line. -/
theorem snippet_window_at_ten :
    let content := "1\n2\n3\n4\n5\n6\n7\n8 \r\n\r9\r\t\nlast"
    let lines := Text.lines content.toList
    let rows := (snippet content 9 1).toList.splitOn '\n'
    9 ≤ lines.length ∧
      List.Forall₂ (fun number row => ∃ text, lines[number - 1]? = some text ∧
        ShowsLine 2 (if number = 9 then '>' else ' ') number text row) [8, 9, 10] rows ∧
      ∃ before marked after text, rows = before ++ marked :: after ∧ lines[8]? = some text ∧
        ShowsLine 2 '>' 9 text marked ∧ ∀ row ∈ before ++ after, row.head? = some ' ' := by
  intro content lines rows
  have hlength : lines.length = 10 := by decide +kernel
  have hlast : min (9 + 1) lines.length = 10 := by omega
  have hwidth : (toString 10).length = 2 := by decide +kernel
  have hwindow := (snippet_window content 9 1).2 (by decide) (show 9 ≤ lines.length by omega)
  rw [show min (9 + 1) (Text.lines content.toList).length = 10 from hlast, hwidth] at hwindow
  exact ⟨by omega, hwindow⟩

end SourceAudit
