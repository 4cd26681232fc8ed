import SourceAudit.Outline.Build
import SourceAudit.Proofs.Outline.Candidate

/-!
# When a syntax tree can be built

* `nodeSpec_gives` : a candidate that fits its line becomes a node;
* `blockLengthFrom_le` : a block ends within the text;
* `addLine_gives`, `addLine_error` : a line is added unless it is crossed;
* `buildFrom_gives`, `buildFrom_error` : so lines are added unless one of them is crossed;
* `buildTree_error_iff_crossed` : a tree cannot be built exactly if some line is an assignment whose value starts behind
  the end of its statement; everything else that is cut out of a line lies in it.
-/

namespace SourceAudit.Outline

open Regex
open Text (byteLength IsBoundary)

variable {hash : Bool} {line : List Char}

/-! ## Nodes -/

theorem columnOf_gives {n : Nat} (h : IsBoundary line n) : Gives (columnOf line n) fun _ => True := by
  obtain ⟨column, hc⟩ := Option.isSome_iff_exists.1 (Text.columnAt?_isSome_iff.2 h)
  refine ⟨column, ?_, trivial⟩
  rw [columnOf, hc]

theorem extent_gives {c : Candidate} (h : c.Fits line) (rest : List (List Char)) (number : Nat) :
    Gives (extent line rest number c) fun _ => True := by
  have hcolumn := columnOf_gives h.1.2.2
  rw [extent.eq_def]
  split
  · have hhead : Span.LiesIn ⟨c.span.start, byteLength line⟩ line := by
      obtain ⟨a, b, hab, ha⟩ := h.1.2.1
      refine ⟨?_, h.1.2.1, Text.isBoundary_byteLength line⟩
      rw [hab, Text.byteLength_append, ← ha]
      exact Nat.le_add_right _ _
    refine (cut_gives hhead).bind fun head _ => ?_
    dsimp only
    split
    · exact .ok trivial
    · exact hcolumn.bind fun _ _ => .ok trivial
  · exact (textAt_gives h.1).bind fun _ _ => hcolumn.bind fun _ _ => .ok trivial

theorem nodeSpec_gives {c : Candidate} (h : c.Fits line) (rest : List (List Char)) (number : Nat)
    (scope : Option String) :
    Gives (nodeSpec line rest number scope c) fun _ => True :=
  (columnOf_gives h.1.2.1).bind fun _ _ => (extent_gives h rest number).bind fun _ _ => .ok trivial

theorem blockLengthFrom_le (indent passed last : Nat) (lines : List (List Char)) (h : last ≤ passed) :
    blockLengthFrom indent passed last lines ≤ passed + lines.length := by
  fun_induction blockLengthFrom indent passed last lines with
  | case1 passed last => simpa using h
  | case2 passed last line lines hl ih =>
    have := ih (by omega)
    rw [List.length_cons]
    omega
  | case3 passed last line lines c tail hl hi ih =>
    have := ih (Nat.le_refl _)
    rw [List.length_cons]
    omega
  | case4 passed last line lines c tail hl hi hc =>
    rw [List.length_cons]
    omega
  | case5 passed last line lines c tail hl hi hc => exact Nat.le_add_right_of_le h

/-! ## Lines -/

theorem addLine_gives (hne : Text.allBlank (maskLine hash line).mask = false)
    (hn : ¬Crossed line (maskLine hash line).mask) (tree : SyntaxTree) (rest : List (List Char)) (number : Nat)
    (enclosing : Option OpenFunction) :
    Gives (addLine tree line (maskLine hash line) rest number enclosing) fun _ => True := by
  refine (candidates_gives hne hn).bind fun cs hcs => ?_
  have hplace : ∀ state, ∀ c ∈ cs.mergeSort Candidate.before,
      Gives (place line rest number enclosing state c) fun _ => True := by
    intro state c hc
    refine (nodeSpec_gives (hcs c ?_) rest number _).bind fun _ _ => .ok trivial
    exact (List.mergeSort_perm cs _).mem_iff.1 hc
  exact (Gives.foldlM hplace (tree, [])).bind fun _ _ => .ok trivial

theorem addLine_error (h : Crossed line (maskLine hash line).mask) (tree : SyntaxTree) (rest : List (List Char))
    (number : Nat) (enclosing : Option OpenFunction) :
    ∃ s : Span, addLine tree line (maskLine hash line) rest number enclosing = .error (.badSpan s) ∧
      s.stop < s.start := by
  obtain ⟨s, hs, hlt⟩ := candidates_error h
  refine ⟨s, ?_, hlt⟩
  simp only [addLine, hs]
  rfl

/-- A line whose nodes cannot be added. -/
def Breaks (hash : Bool) (line : List Char) : Prop :=
  Text.allBlank (maskLine hash line).mask = false ∧ Crossed line (maskLine hash line).mask

theorem buildFrom_gives {lines : List (List Char)} (h : ∀ line ∈ lines, ¬Breaks hash line) (tree : SyntaxTree)
    (functions : List OpenFunction) (number : Nat) :
    Gives (buildFrom hash tree functions number lines) fun _ => True := by
  induction lines generalizing tree functions number with
  | nil => exact .ok trivial
  | cons line rest ih =>
    have hrest : ∀ line ∈ rest, ¬Breaks hash line := fun l hl => h l (List.mem_cons_of_mem line hl)
    rw [buildFrom]
    dsimp only
    split
    · exact ih hrest _ _ _
    · rename_i hne
      have hne : Text.allBlank (maskLine hash line).mask = false := Bool.eq_false_iff.2 hne
      refine (addLine_gives hne (fun hc => h line List.mem_cons_self ⟨hne, hc⟩) ..).bind fun _ _ => ?_
      exact ih hrest _ _ _

theorem buildFrom_error {lines : List (List Char)} (h : ∃ line ∈ lines, Breaks hash line) (tree : SyntaxTree)
    (functions : List OpenFunction) (number : Nat) :
    ∃ s : Span, buildFrom hash tree functions number lines = .error (.badSpan s) ∧ s.stop < s.start := by
  induction lines generalizing tree functions number with
  | nil =>
    obtain ⟨line, hl, -⟩ := h
    cases hl
  | cons line rest ih =>
    have hrest (hn : ¬Breaks hash line) : ∃ line ∈ rest, Breaks hash line := by
      obtain ⟨l, hl, hbreaks⟩ := h
      rcases List.mem_cons.1 hl with rfl | hl
      · exact absurd hbreaks hn
      · exact ⟨l, hl, hbreaks⟩
    rw [buildFrom]
    dsimp only
    split
    · rename_i hblank
      exact ih (hrest fun hb => by simp [hb.1] at hblank) _ _ _
    · rename_i hne
      have hne : Text.allBlank (maskLine hash line).mask = false := Bool.eq_false_iff.2 hne
      by_cases hc : Crossed line (maskLine hash line).mask
      · obtain ⟨s, hs, hlt⟩ := addLine_error hc tree rest number (functions.dropWhile (·.endLine < number)).head?
        refine ⟨s, ?_, hlt⟩
        rw [hs]
        rfl
      · obtain ⟨result, hok, -⟩ :=
          addLine_gives hne hc tree rest number (functions.dropWhile (·.endLine < number)).head?
        rw [hok]
        exact ih (hrest fun hb => hc hb.2) _ _ _

/-! ## Whole texts -/

/-- The parenthesis of a call is closed or not, and its arguments stand between two boundaries of the mask. -/
theorem call_arguments {mask : List Char} {m : Match} (h : m ∈ callShape.findAll mask) :
    ∃ close, closingParen mask (m.stop - 1) = .ok close ∧
      Span.LiesIn ⟨m.stop, close.getD (codeSpan mask).stop⟩ mask := by
  obtain ⟨a, b, callee, hmask, hstop, -⟩ := call_match (findAll_matches h)
  obtain ⟨close, hok, hclose⟩ := closingParen_gives hmask
  refine ⟨close, by rw [hstop, Nat.add_sub_cancel]; exact hok, ?_⟩
  have hstart : IsBoundary mask m.stop :=
    ⟨a ++ ['('], b, by rw [hmask]; simp, by rw [hstop, Text.byteLength_append]; rfl⟩
  rw [hstop] at hstart ⊢
  cases close with
  | none =>
    obtain ⟨hlt, hend⟩ := codeEnd_of_shows hmask (by decide)
    exact ⟨hlt, hstart, hend.isBoundary⟩
  | some n =>
    obtain ⟨hlt, a', b', hmask', rfl⟩ := hclose n rfl
    exact ⟨hlt, hstart, a', ')' :: b', hmask', rfl⟩

/-- A tree cannot be built exactly if some line is an assignment whose value starts behind the end of its statement, and
then that is the error. On every other line, the spans of the candidates and of their operands go from one character
boundary of the line to a later one; the strings lie in the line, no parenthesis closes nothing, arguments are looked
for between two boundaries of the mask, and the block of the line ends within the text. -/
theorem buildTree_error_iff_crossed (source : String) (hash : Bool) :
    ((∃ e, buildTree source hash = .error e) ↔
      ∃ line ∈ Text.lines source.toList,
        Text.allBlank (maskLine hash line).mask = false ∧ Crossed line (maskLine hash line).mask) ∧
    (∀ e, buildTree source hash = .error e → ∃ s : Span, e = .badSpan s ∧ s.stop < s.start) ∧
    ∀ before line rest, Text.lines source.toList = before ++ line :: rest →
      (Text.allBlank (maskLine hash line).mask = false → ¬Crossed line (maskLine hash line).mask →
        ∃ cs, candidates line (maskLine hash line) = .ok cs ∧
          ∀ c ∈ cs, c.span.LiesIn line ∧ ∀ s ∈ c.operands, s.LiesIn line) ∧
      (∀ s ∈ (maskLine hash line).strings, s.LiesIn line) ∧
      (∀ m ∈ callShape.findAll (maskLine hash line).mask,
        ∃ close, closingParen (maskLine hash line).mask (m.stop - 1) = .ok close ∧
          Span.LiesIn ⟨m.stop, close.getD (codeSpan (maskLine hash line).mask).stop⟩ (maskLine hash line).mask) ∧
      blockLengthFrom (indentation line) 0 0 rest ≤ rest.length := by
  have hfails : (∃ line ∈ Text.lines source.toList, Breaks hash line) →
      ∃ s : Span, buildTree source hash = .error (.badSpan s) ∧ s.stop < s.start := fun h => buildFrom_error h _ _ _
  have hworks (e : BuildError) (he : buildTree source hash = .error e) :
      ∃ line ∈ Text.lines source.toList, Breaks hash line := by
    refine Classical.byContradiction fun hn => ?_
    have hnone : ∀ line ∈ Text.lines source.toList, ¬Breaks hash line := fun l hl hb => hn ⟨l, hl, hb⟩
    obtain ⟨tree, hok, -⟩ := buildFrom_gives hnone .empty [] 1
    rw [buildTree, hok] at he
    cases he
  refine ⟨⟨fun ⟨e, he⟩ => hworks e he, fun h => ?_⟩, ?_, ?_⟩
  · obtain ⟨s, hs, -⟩ := hfails h
    exact ⟨_, hs⟩
  · intro e he
    obtain ⟨s, hs, hlt⟩ := hfails (hworks e he)
    rw [hs] at he
    cases he
    exact ⟨s, rfl, hlt⟩
  · intro before line rest _
    refine ⟨candidates_gives, maskLine_strings hash line, fun m => call_arguments, ?_⟩
    have := blockLengthFrom_le (indentation line) 0 0 rest (Nat.le_refl 0)
    rwa [Nat.zero_add] at this

/-- The value of an empty assignment is the last blank of the line, behind the end of the statement. -/
example : (buildTree "x =  ").toOption.isNone = true := by decide +kernel

end SourceAudit.Outline
