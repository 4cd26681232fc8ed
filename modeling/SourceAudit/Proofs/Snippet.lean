import SourceAudit.Proofs.Text.Boundary
import SourceAudit.Proofs.Text.Lines
import SourceAudit.Snippet

/-!
# What a snippet shows

* `shownAround` : the lines around a line of a text, with their numbers;
* `snippet_eq` : a snippet joins exactly these lines, each written by `snippetLine`;
* `linesOf_snippet` : they are the lines of the snippet, since none of them holds a line end;
* `snippet_marks` : of the lines of a snippet one is marked, and it shows the line that the snippet is about.
-/

namespace SourceAudit

variable {content : String} {before after : List (List Char)} {text : List Char} {width line number : Nat}

/-! ## Written lines -/

theorem toList_snippetLine (width line : Nat) (entry : List Char × Nat) :
    (snippetLine width line entry).toList = (if entry.2 = line then '>' else ' ') :: ' ' ::
      ((padLeft width (toString entry.2)).toList ++ " | ".toList ++ Text.trimEnd entry.1) := by
  have hmark : (if entry.2 = line then "> " else "  ").toList = [if entry.2 = line then '>' else ' ', ' '] := by
    by_cases h : entry.2 = line
    · rw [if_pos h, if_pos h]
      decide
    · rw [if_neg h, if_neg h]
      decide
  unfold snippetLine
  dsimp only
  simp only [String.toList_append, hmark, String.toList_ofList, List.cons_append, List.nil_append]

theorem feed_not_mem_toString (n : Nat) : '\n' ∉ (toString n).toList := by
  intro h
  rw [Nat.toString_eq_repr, Nat.repr, String.toList_ofList] at h
  have hdigit := Nat.isDigit_of_mem_toDigits (by decide) (by decide) h
  revert hdigit
  decide

theorem feed_not_mem_padLeft (width n : Nat) : '\n' ∉ (padLeft width (toString n)).toList := by
  intro h
  rw [padLeft, String.toList_append, String.toList_ofList] at h
  rcases List.mem_append.mp h with h | h
  · exact absurd (List.eq_of_mem_replicate h) (by decide)
  · exact feed_not_mem_toString n h

/-- What is left of a text without the blanks at its end does not end with a carriage return. -/
theorem getLast?_trimEnd_ne (text : List Char) : (Text.trimEnd text).getLast? ≠ some '\r' := by
  intro h
  obtain ⟨-, -, -, hlast⟩ := Text.dropEndWhile_spec Text.isBlank text
  obtain ⟨front, hfront⟩ := List.getLast?_eq_some_iff.mp h
  exact absurd (hlast front '\r' hfront) (by decide)

/-- A written line can stand on a line of its own. -/
theorem isLine_snippetLine (h : '\n' ∉ text) : Text.IsLine (snippetLine width line (text, number)).toList := by
  have hbar : " | ".toList = [' ', '|', ' '] := by decide
  rw [toList_snippetLine]
  refine ⟨List.cons_ne_nil _ _, ?_, ?_⟩
  · rw [hbar]
    simp only [List.mem_cons, List.mem_append, not_or]
    refine ⟨?_, by decide, ⟨feed_not_mem_padLeft width number, by decide⟩, fun hmem => ?_⟩
    · by_cases hnumber : number = line
      · rw [if_pos hnumber]
        decide
      · rw [if_neg hnumber]
        decide
    · exact h ((Text.dropEndWhile_prefix Text.isBlank text).subset hmem)
  · have hsplit (mark : Char) (lead : List Char) : mark :: ' ' :: (lead ++ [' ', '|', ' '] ++ Text.trimEnd text) =
        (mark :: ' ' :: (lead ++ [' ', '|'])) ++ ' ' :: Text.trimEnd text := by simp
    -- the last character is that of the text, or the space before it
    rw [hbar, hsplit, List.getLast?_append, List.getLast?_cons, Option.some_or]
    have hlast := getLast?_trimEnd_ne text
    cases htrim : (Text.trimEnd text).getLast? with
    | none => decide
    | some c =>
      rw [htrim] at hlast
      exact hlast

/-! ## Shown lines -/

/-- The lines of a snippet about `text`, with their numbers; `before` and `after` are the other lines. -/
def shownAround (context : Nat) (before : List (List Char)) (text : List Char) (after : List (List Char)) :
    List (List Char × Nat) :=
  (before.zipIdx 1).drop (before.length - context) ++
    (text, before.length + 1) :: (after.zipIdx (before.length + 2)).take context

theorem snippet_eq (hlines : Text.lines content.toList = before ++ text :: after) (context : Nat) :
    ∃ width, snippet content (before.length + 1) context =
      Text.joinLines ((shownAround context before text after).map (snippetLine width (before.length + 1))) := by
  have hlength : (Text.lines content.toList).length = before.length + 1 + after.length := by
    rw [hlines, List.length_append, List.length_cons]
    omega
  have hfirst : max (before.length + 1 - context) 1 - 1 = before.length - context := by omega
  have hnumbered : (Text.lines content.toList).zipIdx 1 =
      before.zipIdx 1 ++ (text, before.length + 1) :: after.zipIdx (before.length + 2) := by
    rw [hlines, List.zipIdx_append, List.zipIdx_cons, Nat.add_comm 1]
  have hdrop : ((Text.lines content.toList).zipIdx 1).drop (before.length - context) =
      (before.zipIdx 1).drop (before.length - context) ++
        (text, before.length + 1) :: after.zipIdx (before.length + 2) := by
    have hle : before.length - context ≤ (before.zipIdx 1).length := by
      rw [List.length_zipIdx]
      omega
    rw [hnumbered, List.drop_append_of_le_length hle]
  have hline : ¬(before.length + 1 = 0 || (Text.lines content.toList).length < before.length + 1) = true := by
    rw [hlength, Bool.or_eq_true, decide_eq_true_eq, decide_eq_true_eq]
    omega
  refine ⟨(toString (min (before.length + 1 + context) (before.length + 1 + after.length))).length, ?_⟩
  unfold snippet
  dsimp only
  rw [if_neg hline, hlength, hfirst, hdrop]
  -- the number of shown lines is cut at both ends of the text
  have hcount : min (before.length + 1 + context) (before.length + 1 + after.length) + 1 -
      max (before.length + 1 - context) 1 =
        ((before.zipIdx 1).drop (before.length - context)).length + (min context after.length + 1) := by
    rw [List.length_drop, List.length_zipIdx]
    omega
  have htake : (after.zipIdx (before.length + 2)).take (min context after.length) =
      (after.zipIdx (before.length + 2)).take context := by
    rw [List.take_eq_take_min (i := context), List.length_zipIdx]
  rw [hcount, List.take_length_add_append, List.take_succ_cons, htake, shownAround]

theorem linesOf_snippet (hlines : Text.lines content.toList = before ++ text :: after) (context : Nat) :
    ∃ width, Text.linesOf (snippet content (before.length + 1) context) =
      (shownAround context before text after).map (snippetLine width (before.length + 1)) := by
  obtain ⟨width, hsnippet⟩ := snippet_eq hlines context
  refine ⟨width, ?_⟩
  rw [hsnippet]
  refine Text.linesOf_joinLines fun l hl => ?_
  obtain ⟨⟨shown, number⟩, hshown, rfl⟩ := List.mem_map.mp hl
  have hmem : shown ∈ Text.lines content.toList := by
    rw [hlines]
    rcases List.mem_append.mp hshown with hmem | hmem
    · exact List.mem_append_left _ (List.fst_mem_of_mem_zipIdx (List.mem_of_mem_drop hmem))
    · refine List.mem_append_right _ ?_
      rcases List.mem_cons.mp hmem with heq | hmem
      · cases heq
        exact List.mem_cons_self
      · exact List.mem_cons_of_mem text (List.fst_mem_of_mem_zipIdx (List.mem_of_mem_take hmem))
  exact isLine_snippetLine (Text.not_mem_of_mem_lines hmem)

/-! ## The marked line -/

def isMarked (line : String) : Bool := line.toList.head? == some '>'

theorem isMarked_snippetLine (width line : Nat) (entry : List Char × Nat) :
    isMarked (snippetLine width line entry) = decide (entry.2 = line) := by
  unfold isMarked
  rw [toList_snippetLine, List.head?_cons]
  by_cases h : entry.2 = line
  · rw [if_pos h, decide_eq_true h]
    rfl
  · rw [if_neg h, decide_eq_false h]
    rfl

/-- No other shown line has the number of the line that a snippet is about. -/
theorem filter_shownAround (context : Nat) (before : List (List Char)) (text : List Char) (after : List (List Char)) :
    (shownAround context before text after).filter (fun entry => entry.2 = before.length + 1) =
      [(text, before.length + 1)] := by
  have hbefore : ((before.zipIdx 1).drop (before.length - context)).filter
      (fun entry => entry.2 = before.length + 1) = [] := by
    refine List.filter_eq_nil_iff.mpr fun entry hentry => ?_
    have hlt := List.snd_lt_of_mem_zipIdx (List.mem_of_mem_drop hentry)
    simp only [decide_eq_true_eq]
    omega
  have hafter : ((after.zipIdx (before.length + 2)).take context).filter (fun entry => entry.2 = before.length + 1) =
      [] := by
    refine List.filter_eq_nil_iff.mpr fun entry hentry => ?_
    have hle := List.le_snd_of_mem_zipIdx (List.mem_of_mem_take hentry)
    simp only [decide_eq_true_eq]
    omega
  rw [shownAround, List.filter_append, hbefore, List.filter_cons_of_pos (by simp), hafter]
  rfl

theorem snippet_marks (hpos : 1 ≤ line) (hle : line ≤ (Text.lines content.toList).length) (context : Nat) :
    ∃ text width, (Text.lines content.toList)[line - 1]? = some text ∧
      (Text.linesOf (snippet content line context)).filter isMarked =
        ["> " ++ padLeft width (toString line) ++ " | " ++ String.ofList (Text.trimEnd text)] := by
  have hlt : line - 1 < (Text.lines content.toList).length := by omega
  have hlines : Text.lines content.toList = (Text.lines content.toList).take (line - 1) ++
      (Text.lines content.toList)[line - 1] :: (Text.lines content.toList).drop (line - 1 + 1) := by
    rw [List.getElem_cons_drop, List.take_append_drop]
  have hbefore : ((Text.lines content.toList).take (line - 1)).length + 1 = line := by
    rw [List.length_take]
    omega
  obtain ⟨width, hshown⟩ := linesOf_snippet hlines context
  rw [hbefore] at hshown
  refine ⟨_, width, List.getElem?_eq_getElem hlt, ?_⟩
  have hmarked : isMarked ∘ snippetLine width line = fun entry : List Char × Nat => decide (entry.2 = line) := by
    funext entry
    exact isMarked_snippetLine width line entry
  have hfilter := filter_shownAround context ((Text.lines content.toList).take (line - 1))
    (Text.lines content.toList)[line - 1] ((Text.lines content.toList).drop (line - 1 + 1))
  rw [hbefore] at hfilter
  rw [hshown, List.filter_map, hmarked, hfilter, List.map_singleton, snippetLine, if_pos rfl]

theorem snippet_ne_empty (hpos : 1 ≤ line) (hle : line ≤ (Text.lines content.toList).length) (context : Nat) :
    snippet content line context ≠ "" := by
  intro hempty
  obtain ⟨text, width, -, hmarked⟩ := snippet_marks hpos hle context
  rw [hempty] at hmarked
  cases hmarked

end SourceAudit
