import SourceAudit.Glob.Expression
import SourceAudit.Proofs.Glob.Expansion

/-!
# Globs that are too large

* `footprint_eq_none` : there is no automaton of patterns if there is none of one of them;
* `parse_marks` : question marks are a glob; `placeAll_marks` : each of them takes 72 bytes;
* `not_areUsable_of_marks` : globs are not usable if so many question marks that they fill an automaton are one of them.
-/

namespace SourceAudit

namespace Regex

open Footprint (limit)

variable {f : Footprint} {d : Direction} {a : Shape} {as : List Shape}

namespace Shape

theorem foldlM_placeWhole_eq_none (h : ∀ f, placeWhole d f a = none) (ha : a ∈ as) (f : Footprint) :
    as.foldlM (placeWhole d) f = none := by
  induction as generalizing f with
  | nil => cases ha
  | cons b as ih =>
    rw [List.foldlM_cons]
    rcases List.mem_cons.mp ha with rfl | ha
    · rw [h f]
      rfl
    · cases placeWhole d f b with
      | none => rfl
      | some g => exact ih ha g

/-- There is no automaton of several patterns, if one of them has none. -/
theorem footprint_eq_none (h : ∀ f, placeWhole d f a = none) (ha : a ∈ as) : footprint d as = none := by
  unfold footprint
  dsimp only
  generalize (if as.all (isTied d) then (⟨1, 0⟩ : Footprint) else ⟨3, 16⟩) = start
  split
  · cases ha
  · rw [← List.mem_singleton.mp ha]
    exact h start
  · next b c rest =>
    rcases List.mem_cons.mp ha with rfl | ha
    · simp only [h, Option.bind_eq_bind, Option.bind_none]
    rcases List.mem_cons.mp ha with rfl | ha
    · simp only [h, Option.bind_eq_bind, Option.bind_none, Option.bind_fun_none]
    · simp only [foldlM_placeWhole_eq_none h ha, Option.bind_eq_bind, Option.bind_fun_none]

theorem bound_le_boundSum (ha : a ∈ as) : a.bound ≤ boundSum as := by
  induction as with
  | nil => cases ha
  | cons b as ih =>
    rw [boundSum]
    rcases List.mem_cons.mp ha with rfl | ha
    · omega
    · have := ih ha
      omega

theorem not_fitTogether (h : ∀ f, placeWhole .forward f a = none) (hbound : limit < a.bound) (ha : a ∈ as) :
    fitTogether as = false := by
  have hsum := bound_le_boundSum ha
  rw [fitTogether, footprint_eq_none h ha, decide_eq_false (by omega)]
  rfl

theorem mergeLiterals_of_forall (h : ∀ a ∈ as, a.literalBytes? = none) : mergeLiterals as = as := by
  induction as with
  | nil => rfl
  | cons a as ih =>
    rw [mergeLiterals, ih fun b hb => h b (List.mem_cons_of_mem a hb)]
    rintro bytes _ _ rfl
    cases h _ List.mem_cons_self

end Shape

end Regex

namespace Glob

open Regex Regex.Shape

variable {n : Nat} {gs : List Glob}

/-! ## Question marks -/

/-- As many question marks, as a text. -/
def marks (n : Nat) : String := String.ofList (List.replicate n '?')

def markTokens (n : Nat) : Glob := List.replicate n .any

theorem read_marks (n : Nat) (s : State) (before : Option Char) :
    read s before (List.replicate n '?') = .ok { s with current := markTokens n ++ s.current } := by
  induction n generalizing s before with
  | zero => rw [List.replicate_zero, read]; rfl
  | succ n ih =>
    have hcurrent : markTokens n ++ .any :: s.current = markTokens (n + 1) ++ s.current := by
      rw [markTokens, markTokens, List.replicate_succ', List.append_assoc]
      rfl
    rw [List.replicate_succ, read, ih, State.push, hcurrent]

theorem parse_marks (n : Nat) : parse (marks n) = .ok (markTokens n) := by
  refine parse_eq_ok_iff.mpr ⟨{ current := markTokens n }, ?_, rfl, List.reverse_replicate.symm⟩
  rw [marks, String.toList_ofList, read_marks, List.append_nil]

theorem shapes_marks (n : Nat) : shapes (markTokens n) = List.replicate n anyByteShape := by
  induction n with
  | zero => rfl
  | succ n ih =>
    rw [markTokens, List.replicate_succ, shapes, ← markTokens, ih]
    rfl

/-- As many bytes between the ends of a path. -/
def markShapes (n : Nat) : List Shape := .look .startText :: (List.replicate n anyByteShape ++ [.look .endText])

theorem part_of_markShapes {a : Shape} (ha : a ∈ markShapes n) : a.elements = [a] ∧ a.literalBytes? = none := by
  simp only [markShapes, List.mem_cons, List.mem_append, List.mem_replicate, List.not_mem_nil, or_false] at ha
  obtain rfl | ⟨-, rfl⟩ | rfl := ha <;> exact ⟨rfl, rfl⟩

theorem expression_marks (n : Nat) : expression (markTokens n) = .seq (markShapes n) := by
  have hparts : expression (markTokens n) = .concat (markShapes n) := by
    rw [markShapes, ← shapes_marks]
    cases n <;> rfl
  have helements : (markShapes n).flatMap Shape.elements = markShapes n := by
    rw [List.flatMap_congr fun a ha => (part_of_markShapes ha).1, List.flatMap_singleton']
  rw [hparts, Shape.concat, helements, mergeLiterals_of_forall fun a ha => (part_of_markShapes ha).2]
  cases n <;> rfl

theorem placeAll_marks {f : Footprint} (h : Footprint.limit < f.bytes + 72 * n) :
    placeAll .forward (List.replicate n anyByteShape ++ [.look .endText]) f = none := by
  induction n generalizing f with
  | zero =>
    rw [List.replicate_zero, List.nil_append, placeAll, place, Footprint.grow_of_lt (by omega)]
    rfl
  | succ n ih =>
    rw [List.replicate_succ, List.cons_append, placeAll]
    cases hplace : place .forward anyByteShape f with
    | none => rfl
    | some g =>
      have hbytes := Footprint.bytes_of_grow hplace
      refine ih ?_
      simp only [List.length_singleton] at hbytes
      omega

theorem placeWhole_marks (h : Footprint.limit < 72 * n) (f : Footprint) :
    placeWhole .forward f (expression (markTokens n)) = none := by
  have hrest (g : Footprint) : placeAll .forward (List.replicate n anyByteShape ++ [.look .endText]) g = none :=
    placeAll_marks (by omega)
  simp only [expression_marks, placeWhole, place, markShapes, placeAll, hrest, Option.bind_eq_bind, Option.bind_none,
    Option.bind_fun_none]

theorem bound_marks (n : Nat) : 72 * n ≤ (expression (markTokens n)).bound := by
  have hsum : 72 * n ≤ boundSum (List.replicate n anyByteShape ++ [.look .endText]) := by
    induction n with
    | zero => omega
    | succ n ih =>
      have hany : anyByteShape.bound = 72 := by decide
      rw [List.replicate_succ, List.cons_append, boundSum, hany]
      omega
  rw [expression_marks, bound, markShapes, boundSum]
  omega

/-- Question marks are compared together with other globs. -/
theorem marks_mem_joined (hn : n ≠ 0) (h : markTokens n ∈ gs) : markTokens n ∈ joined gs := by
  obtain ⟨n, rfl⟩ := Nat.exists_eq_succ_of_ne_zero hn
  have hlast : (markTokens (n + 1)).getLast? = some .any := by
    rw [markTokens, List.replicate_succ', List.getLast?_concat]
  have hreverse : (markTokens (n + 1)).reverse = .any :: markTokens n := by
    rw [markTokens, List.reverse_replicate, List.replicate_succ, markTokens]
  have hstart : isStart (markTokens (n + 1)) = false := by
    rw [isStart, hlast]
  refine List.mem_filter.mpr ⟨h, ?_⟩
  rw [isPlain, hstart, hreverse]
  rfl

/-- Globs are not usable, if one of them is so many question marks that they fill an automaton. -/
theorem not_areUsable_of_marks (hn : Footprint.limit < 72 * n) (h : markTokens n ∈ gs) : areUsable gs = false := by
  have hne : n ≠ 0 := by
    rintro rfl
    omega
  have hmem := List.mem_map_of_mem (f := expression) (marks_mem_joined hne h)
  have hbound : Footprint.limit < (expression (markTokens n)).bound := lt_of_lt_of_le hn (bound_marks n)
  rw [areUsable, not_fitTogether (placeWhole_marks hn) hbound hmem, Bool.and_false]

end Glob

end SourceAudit
