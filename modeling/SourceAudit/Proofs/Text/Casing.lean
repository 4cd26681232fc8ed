import Mathlib.Data.List.Count
import Mathlib.Data.List.Infix
import SourceAudit.Text.Lowercase

/-!
# Lower case in context

The lower case of a capital sigma depends on the letters around it, so the lower case of a part of a text need not be a
part of the lower case of the text.

* `lowerBetween before cs after` : the lower case that `cs` has between two texts; `lowercase_append₃` : the lower
  case of a text, part by part;
* `Swayed u w` : the lower case of a capital sigma between `u` and `w` depends on what stands around these;
* `Steady cs` : no capital sigma of `cs` is swayed; `lowerBetween_of_steady` : then its lower case is the same
  everywhere;
* `steady_of_beside_letter` : it is enough that its lower case is found beside a letter on either side;
* `steady_iff` : the steady texts are those whose lower case is found in that of every text that holds them.
-/

namespace SourceAudit.Text

/-- The letter whose lower case depends on its neighbours. -/
def capitalSigma : Char := Char.ofNat 0x3A3

/-- The lower case of a text between two others; the first has its nearest character first. -/
def lowerBetween (before : List Char) : List Char → List Char → List Char
  | [], _ => []
  | c :: cs, after =>
    (if c.toNat = 0x3A3 then [lowerSigma before (cs ++ after)] else lowerChar c) ++ lowerBetween (c :: before) cs after

variable {before after cs u w extra : List Char} {c : Char}

theorem toNat_eq_iff_capitalSigma : c.toNat = 0x3A3 ↔ c = capitalSigma := by
  constructor
  · intro h
    rw [capitalSigma, ← h, Char.ofNat_toNat]
  · rintro rfl
    decide

theorem lowercaseAfter_append (before cs after : List Char) :
    lowercaseAfter before (cs ++ after) = lowerBetween before cs after ++
      lowercaseAfter (cs.reverse ++ before) after := by
  induction cs generalizing before with
  | nil => rfl
  | cons c cs ih =>
    rw [List.cons_append, lowercaseAfter, lowerBetween, ih, List.append_assoc, List.reverse_cons, List.append_assoc]
    rfl

theorem lowerBetween_nil_right (before cs : List Char) : lowerBetween before cs [] = lowercaseAfter before cs := by
  have h := lowercaseAfter_append before cs []
  rw [List.append_nil] at h
  rw [h, lowercaseAfter, List.append_nil]

/-- The lower case of three texts in a row. -/
theorem lowercase_append₃ (a b c : List Char) :
    lowercase (a ++ b ++ c) =
      lowerBetween [] a (b ++ c) ++ lowerBetween a.reverse b c ++ lowercaseAfter (b.reverse ++ a.reverse) c := by
  rw [lowercase, List.append_assoc, lowercaseAfter_append, lowercaseAfter_append, List.append_nil, List.append_assoc]

/-! ## What the neighbours decide -/

/-- All characters are passed over when the neighbours of a sigma are looked up. -/
abbrev Ignorable (cs : List Char) : Prop := ∀ c ∈ cs, isCaseIgnorable c = true

theorem startsCased_append_of_ignorable (h : Ignorable u) (w : List Char) : startsCased (u ++ w) = startsCased w := by
  rw [startsCased, startsCased, List.dropWhile_append_of_pos h]

theorem startsCased_append_of_not_ignorable (h : ¬Ignorable u) (w : List Char) :
    startsCased (u ++ w) = startsCased u := by
  induction u with
  | nil => exact absurd (List.forall_mem_nil _) h
  | cons c u ih =>
    by_cases hc : isCaseIgnorable c = true
    · have hsingle : Ignorable [c] := List.forall_mem_singleton.mpr hc
      have hu : ¬Ignorable u := fun hu => h (List.forall_mem_cons.mpr ⟨hc, hu⟩)
      rw [← List.singleton_append, List.append_assoc, startsCased_append_of_ignorable hsingle,
        startsCased_append_of_ignorable hsingle, ih hu]
    · rw [startsCased, startsCased, List.cons_append, List.dropWhile_cons_of_neg hc, List.dropWhile_cons_of_neg hc]

theorem startsCased_of_ignorable (h : Ignorable u) : startsCased u = false := by
  rw [← List.append_nil u, startsCased_append_of_ignorable h]
  rfl

theorem ignorable_reverse : Ignorable u.reverse ↔ Ignorable u := by
  unfold Ignorable
  simp

theorem capitalSigma_not_ignorable : isCaseIgnorable capitalSigma = false := by
  decide +kernel

theorem not_ignorable_of_capitalSigma_mem (h : capitalSigma ∈ cs) : ¬Ignorable cs := by
  intro hcs
  have := hcs capitalSigma h
  rw [capitalSigma_not_ignorable] at this
  cases this

/-- What stands behind a character that is not passed over does not count. -/
theorem lowerBetween_append_right (h : ¬Ignorable after) (before cs extra : List Char) :
    lowerBetween before cs (after ++ extra) = lowerBetween before cs after := by
  induction cs generalizing before with
  | nil => rfl
  | cons c cs ih =>
    have hrest : ¬Ignorable (cs ++ after) := fun hall => h fun c hc => hall c (List.mem_append_right cs hc)
    rw [lowerBetween, lowerBetween, ih, lowerSigma, lowerSigma, ← List.append_assoc,
      startsCased_append_of_not_ignorable hrest]

/-- What stands before a character that is not passed over does not count. -/
theorem lowerBetween_append_left (h : ¬Ignorable before) (cs after extra : List Char) :
    lowerBetween (before ++ extra) cs after = lowerBetween before cs after := by
  induction cs generalizing before with
  | nil => rfl
  | cons c cs ih =>
    have hmore : ¬Ignorable (c :: before) := fun hall => h fun d hd => hall d (List.mem_cons_of_mem c hd)
    rw [lowerBetween, lowerBetween, lowerSigma, lowerSigma, startsCased_append_of_not_ignorable h, ← List.cons_append,
      ih hmore]

/-- Without a capital sigma, a text is lowered character by character. -/
theorem lowerBetween_of_ignorable (h : Ignorable cs) (before after : List Char) :
    lowerBetween before cs after = cs.flatMap lowerChar := by
  induction cs generalizing before with
  | nil => rfl
  | cons c cs ih =>
    have hc : ¬c.toNat = 0x3A3 := by
      rw [toNat_eq_iff_capitalSigma]
      rintro rfl
      exact not_ignorable_of_capitalSigma_mem List.mem_cons_self h
    rw [lowerBetween, if_neg hc, ih (List.forall_mem_cons.mp h).2, List.flatMap_cons]

/-! ## Steady texts -/

/-- The lower case of a capital sigma between two texts depends on what stands around these: nothing before it counts,
and it is not inside a word, or nothing behind it counts, and it is in a word. -/
def Swayed (u w : List Char) : Prop :=
  (Ignorable u ∧ startsCased w = false) ∨ (Ignorable w ∧ startsCased u.reverse = true)

/-- No capital sigma of a text is swayed by what stands around the text. -/
def Steady (cs : List Char) : Prop := ∀ u w, cs = u ++ capitalSigma :: w → ¬Swayed u w

theorem lowerSigma_of_not_swayed (h : ¬Swayed u w) (before after : List Char) :
    lowerSigma (u.reverse ++ before) (w ++ after) = lowerSigma u.reverse w := by
  obtain ⟨hleft, hright⟩ := not_or.mp h
  unfold lowerSigma
  by_cases hu : Ignorable u
  · -- the sigma is followed by a letter of the text
    have hcased : startsCased w = true := by
      rw [← Bool.not_eq_false]
      exact fun hw => hleft ⟨hu, hw⟩
    have hw : ¬Ignorable w := by
      intro hw
      rw [startsCased_of_ignorable hw] at hcased
      cases hcased
    rw [startsCased_append_of_not_ignorable hw, hcased, Bool.not_true, Bool.and_false, Bool.and_false]
  · rw [startsCased_append_of_not_ignorable (mt ignorable_reverse.mp hu)]
    cases hcased : startsCased u.reverse with
    | false => rw [Bool.false_and, Bool.false_and]
    | true => rw [startsCased_append_of_not_ignorable fun hw => hright ⟨hw, hcased⟩]

/-- The lower case of the rest of a steady text does not depend on what stands around the text. -/
theorem lowerBetween_rest (h : Steady cs) (hcs : cs = u ++ w) (before after : List Char) :
    lowerBetween (u.reverse ++ before) w after = lowercaseAfter u.reverse w := by
  induction w generalizing u with
  | nil => rfl
  | cons c w ih =>
    have hnext := ih (u := u ++ [c]) (by rw [hcs, List.append_assoc]; rfl)
    rw [List.reverse_append, List.append_assoc] at hnext
    have hhead : (if c.toNat = 0x3A3 then [lowerSigma (u.reverse ++ before) (w ++ after)] else lowerChar c) =
        if c.toNat = 0x3A3 then [lowerSigma u.reverse w] else lowerChar c := by
      split
      · rename_i hc
        rw [toNat_eq_iff_capitalSigma] at hc
        rw [lowerSigma_of_not_swayed (h u w (by rw [hcs, hc]))]
      · rfl
    rw [lowerBetween, lowercaseAfter, hhead]
    exact congrArg _ hnext

/-- A steady text has one lower case, whatever stands around it. -/
theorem lowerBetween_of_steady (h : Steady cs) (before after : List Char) :
    lowerBetween before cs after = lowercase cs :=
  lowerBetween_rest h (List.nil_append cs).symm before after

theorem lowercase_infix (h : Steady cs) {text : List Char} (hcs : cs <:+: text) : lowercase cs <:+: lowercase text := by
  obtain ⟨a, b, rfl⟩ := hcs
  rw [lowercase_append₃, lowerBetween_of_steady h]
  exact List.infix_append _ _ _

/-! ## Texts that are not steady -/

theorem lowercase_around_capitalSigma (u w : List Char) :
    lowercase (u ++ capitalSigma :: w) = lowerBetween [] u (capitalSigma :: w) ++
      lowerSigma u.reverse w :: lowercaseAfter (capitalSigma :: u.reverse) w := by
  rw [lowercase, lowercaseAfter_append, List.append_nil, lowercaseAfter, if_pos (toNat_eq_iff_capitalSigma.mpr rfl)]
  rfl

/-- A text of the same characters but one, and a letter, does not hold the text. -/
theorem not_infix_of_replaced {x y text : List Char} {sign other letter : Char}
    (htext : text.Perm (letter :: (x ++ other :: y))) (hother : other ≠ sign) (hletter : letter ≠ sign) :
    ¬x ++ sign :: y <:+: text := by
  intro h
  have hle := h.sublist.count_le sign
  rw [htext.count_eq, List.count_cons_of_ne hletter, List.count_append, List.count_append, List.count_cons_self,
    List.count_cons_of_ne hother] at hle
  omega

theorem lowerChar_letterA : lowerChar 'A' = ['a'] := by
  decide +kernel

/-- Behind a letter, a capital sigma that opens a word may also end one. -/
theorem not_infix_behind_letter (hu : Ignorable u) (hw : startsCased w = false) :
    ¬lowercase (u ++ capitalSigma :: w) <:+: lowercase ('A' :: (u ++ capitalSigma :: w)) := by
  have hsingle : ¬Ignorable (capitalSigma :: u.reverse) := not_ignorable_of_capitalSigma_mem List.mem_cons_self
  have halone : lowerSigma u.reverse w = Char.ofNat 0x3C3 := by
    rw [lowerSigma, startsCased_of_ignorable (ignorable_reverse.mpr hu)]
    rfl
  have hbehind : lowerSigma (u.reverse ++ ['A']) w = Char.ofNat 0x3C2 := by
    rw [lowerSigma, startsCased_append_of_ignorable (ignorable_reverse.mpr hu), hw]
    decide +kernel
  have htext : lowercase ('A' :: (u ++ capitalSigma :: w)) = 'a' :: (lowerBetween [] u (capitalSigma :: w) ++
      Char.ofNat 0x3C2 :: lowercaseAfter (capitalSigma :: u.reverse) w) := by
    rw [lowercase, lowercaseAfter, if_neg (by decide), lowerChar_letterA, lowercaseAfter_append, lowercaseAfter,
      if_pos (toNat_eq_iff_capitalSigma.mpr rfl), hbehind, lowerBetween_of_ignorable hu, lowerBetween_of_ignorable hu,
      ← lowerBetween_nil_right, ← lowerBetween_nil_right, ← List.cons_append, lowerBetween_append_left hsingle]
    rfl
  rw [lowercase_around_capitalSigma, halone]
  exact not_infix_of_replaced (List.Perm.of_eq htext) (by decide) (by decide)

theorem not_infix_before_letter (hw : Ignorable w) (hu : startsCased u.reverse = true) :
    ¬lowercase (u ++ capitalSigma :: w) <:+: lowercase (u ++ capitalSigma :: w ++ ['A']) := by
  have hsingle : ¬Ignorable (capitalSigma :: w) := not_ignorable_of_capitalSigma_mem List.mem_cons_self
  have halone : lowerSigma u.reverse w = Char.ofNat 0x3C2 := by
    rw [lowerSigma, hu, startsCased_of_ignorable hw]
    rfl
  have hbefore : lowerSigma u.reverse (w ++ ['A']) = Char.ofNat 0x3C3 := by
    rw [lowerSigma, hu, startsCased_append_of_ignorable hw]
    decide +kernel
  have hrest : lowercaseAfter (capitalSigma :: u.reverse) (w ++ ['A']) =
      lowercaseAfter (capitalSigma :: u.reverse) w ++ ['a'] := by
    rw [lowercaseAfter_append, lowerBetween_of_ignorable hw, ← lowerBetween_nil_right _ w, lowerBetween_of_ignorable hw,
      lowercaseAfter, if_neg (by decide), lowerChar_letterA]
    rfl
  have htext : lowercase (u ++ capitalSigma :: w ++ ['A']) = (lowerBetween [] u (capitalSigma :: w) ++
      Char.ofNat 0x3C3 :: lowercaseAfter (capitalSigma :: u.reverse) w) ++ ['a'] := by
    rw [List.append_assoc, List.cons_append, lowercase_around_capitalSigma, hbefore, hrest, ← List.cons_append,
      lowerBetween_append_right hsingle, ← List.cons_append, ← List.append_assoc]
  rw [lowercase_around_capitalSigma, halone]
  exact not_infix_of_replaced (htext ▸ List.perm_append_singleton 'a' _) (by decide) (by decide)

/-- A text is steady if its lower case is found in that of the text behind a letter and in that of the text before
one. -/
theorem steady_of_beside_letter (hbehind : lowercase cs <:+: lowercase ('A' :: cs))
    (hbefore : lowercase cs <:+: lowercase (cs ++ ['A'])) : Steady cs := by
  rintro u w rfl (⟨hu, hw⟩ | ⟨hw, hu⟩)
  · exact not_infix_behind_letter hu hw hbehind
  · exact not_infix_before_letter hw hu hbefore

/-- The steady texts are those whose lower case is found in that of every text that holds them. -/
theorem steady_iff : Steady cs ↔ ∀ text, cs <:+: text → lowercase cs <:+: lowercase text := by
  constructor
  · intro h text hcs
    exact lowercase_infix h hcs
  · intro h
    exact steady_of_beside_letter (h _ (List.suffix_cons 'A' cs).isInfix) (h _ (List.prefix_append cs ['A']).isInfix)

end SourceAudit.Text
