import SourceAudit.Text.Lines

/-!
# Lines, split and joined

* `lines_cons` : a character that ends no line belongs to the first one;
* `not_mem_of_mem_lines` : a line holds no line feed;
* `lines_append` : a line feed ends a line, whatever comes after it;
* `IsLine cs` : the text can stand on a line of its own, and is read back from it;
* `linesOf_joinLines` : joined lines are split into the same lines.
-/

namespace SourceAudit.Text

/-- A character that does not start a line end belongs to the first line. -/
theorem lines_cons {c : Char} {cs : List Char} (hc : c ≠ '\n') (hr : c = '\r' → cs.head? ≠ some '\n') :
    lines (c :: cs) = (c :: (lines cs).headD []) :: (lines cs).tail := by
  rw [lines.eq_def]
  split
  · rename_i heq
    cases heq
  · rename_i heq
    cases heq
    exact absurd rfl hc
  · rename_i heq
    cases heq
    exact absurd rfl (hr rfl)
  · rename_i heq
    cases heq
    cases lines cs with
    | nil => rfl
    | cons l ls => rfl

theorem not_mem_of_mem_lines {cs line : List Char} (h : line ∈ lines cs) : '\n' ∉ line := by
  fun_induction lines cs generalizing line with
  | case1 => cases h
  | case2 cs ih =>
    rcases List.mem_cons.mp h with rfl | h
    · exact List.not_mem_nil
    · exact ih h
  | case3 cs ih =>
    rcases List.mem_cons.mp h with rfl | h
    · exact List.not_mem_nil
    · exact ih h
  | case4 c cs hfeed hreturn hnil ih =>
    obtain rfl := List.mem_singleton.mp h
    intro hmem
    exact hfeed (List.mem_singleton.mp hmem).symm
  | case5 c cs hfeed hreturn l ls hlines ih =>
    rw [hlines] at ih
    rcases List.mem_cons.mp h with rfl | h
    · intro hmem
      rcases List.mem_cons.mp hmem with heq | hmem
      · exact hfeed heq.symm
      · exact ih List.mem_cons_self hmem
    · exact ih (List.mem_cons_of_mem l h)

theorem lines_ne_nil {cs : List Char} (h : cs ≠ []) : lines cs ≠ [] := by
  rw [lines.eq_def]
  split
  · exact absurd rfl h
  · exact List.cons_ne_nil _ _
  · exact List.cons_ne_nil _ _
  · split <;> exact List.cons_ne_nil _ _

/-- A line feed ends a line, whatever comes after it. -/
theorem lines_append (cs ds : List Char) : lines (cs ++ '\n' :: ds) = lines (cs ++ ['\n']) ++ lines ds := by
  induction cs with
  | nil => simp [lines]
  | cons c cs ih =>
    rw [List.cons_append, List.cons_append]
    by_cases hfeed : c = '\n'
    · rw [hfeed, lines, lines, ih, List.cons_append]
    · by_cases hreturn : c = '\r' ∧ (cs ++ ['\n']).head? = some '\n'
      · -- the carriage return belongs to the line end that follows
        obtain ⟨rfl, hhead⟩ := hreturn
        have hskip (rest : List Char) : lines ('\r' :: '\n' :: rest) = lines ('\n' :: rest) := by rw [lines, lines]
        cases cs with
        | nil => simp [lines]
        | cons d cs =>
          obtain rfl : d = '\n' := Option.some.inj hhead
          rw [List.cons_append, List.cons_append, hskip, hskip]
          exact ih
      · have hne : lines (cs ++ ['\n']) ≠ [] := lines_ne_nil (by simp)
        rw [lines_cons hfeed (fun h h' => hreturn ⟨h, ?_⟩), lines_cons hfeed fun h h' => hreturn ⟨h, h'⟩, ih]
        · cases hl : lines (cs ++ ['\n']) with
          | nil => exact absurd hl hne
          | cons l ls => rfl
        · cases cs with
          | nil => rfl
          | cons d cs => exact h'

/-! ## Joining -/

/-- The text is not empty, holds no line feed and does not end with a carriage return. -/
structure IsLine (cs : List Char) : Prop where
  ne_nil : cs ≠ []
  no_feed : '\n' ∉ cs
  no_return : cs.getLast? ≠ some '\r'

theorem lines_append_feed {line : List Char} (rest : List Char) (hfeed : '\n' ∉ line)
    (hreturn : line.getLast? ≠ some '\r') :
    lines (line ++ '\n' :: rest) = line :: lines rest := by
  induction line with
  | nil => rw [List.nil_append, lines]
  | cons c cs ih =>
    rw [List.mem_cons, not_or] at hfeed
    have hcs : lines (cs ++ '\n' :: rest) = cs :: lines rest := by
      refine ih hfeed.2 fun hlast => hreturn ?_
      rw [List.getLast?_cons, hlast]
      rfl
    have hhead : c = '\r' → (cs ++ '\n' :: rest).head? ≠ some '\n' := by
      rintro rfl
      cases cs with
      | nil => exact absurd rfl hreturn
      | cons d ds =>
        intro heq
        exact hfeed.2 (List.mem_cons.mpr (.inl (Option.some.inj heq).symm))
    rw [List.cons_append, lines_cons (Ne.symm hfeed.1) hhead, hcs]
    rfl

theorem lines_of_line {line : List Char} (hne : line ≠ []) (hfeed : '\n' ∉ line) : lines line = [line] := by
  induction line with
  | nil => exact absurd rfl hne
  | cons c cs ih =>
    rw [List.mem_cons, not_or] at hfeed
    have hhead : c = '\r' → cs.head? ≠ some '\n' := fun _ heq => hfeed.2 (List.mem_of_head? heq)
    rw [lines_cons (Ne.symm hfeed.1) hhead]
    cases cs with
    | nil => rfl
    | cons d ds =>
      rw [ih (List.cons_ne_nil d ds) hfeed.2]
      rfl

theorem lines_intercalate {ls : List (List Char)} (h : ∀ l ∈ ls, IsLine l) : lines (['\n'].intercalate ls) = ls := by
  induction ls with
  | nil => rfl
  | cons l ls ih =>
    have hl := h l List.mem_cons_self
    have hls : ∀ m ∈ ls, IsLine m := fun m hm => h m (List.mem_cons_of_mem l hm)
    cases ls with
    | nil =>
      rw [List.intercalate_singleton]
      exact lines_of_line hl.ne_nil hl.no_feed
    | cons m ms =>
      rw [List.intercalate_cons_cons, List.append_assoc, List.singleton_append,
        lines_append_feed _ hl.no_feed hl.no_return, ih hls]

theorem linesOf_joinLines {ls : List String} (h : ∀ l ∈ ls, IsLine l.toList) : linesOf (joinLines ls) = ls := by
  have hlines : ∀ l ∈ ls.map String.toList, IsLine l := by
    intro l hl
    obtain ⟨s, hs, rfl⟩ := List.mem_map.mp hl
    exact h s hs
  have hfeed : "\n".toList = ['\n'] := by decide
  rw [linesOf, joinLines, String.toList_intercalate, hfeed, lines_intercalate hlines, List.map_map]
  have hid : String.ofList ∘ String.toList = id := by
    funext s
    exact String.ofList_toList
  rw [hid, List.map_id]

end SourceAudit.Text
