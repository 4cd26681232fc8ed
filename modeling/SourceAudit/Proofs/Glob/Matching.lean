import Mathlib.Data.List.Infix
import SourceAudit.Glob.Basic

/-!
# What globs match

* `mem_tails`, `mem_slashTails`, `strip?_eq_some_iff` : what can be left of the bytes of a path;
* `accepts_append` : a glob in two parts; `accepts_longer` : a glob that leaves something of a path leaves more of a
  longer one;
* `Downward g` : the glob stands for all that is below the paths that it matches; `isMatch_below` : it matches what is
  below;
* `isMatch_append_anySuffix` : with all that is below added, a glob matches what is below the paths that it matched
  before.
-/

namespace SourceAudit.Glob

variable {bs more x : List UInt8} {rest rest' : List UInt8 → Bool} {g : Glob} {q r : String}

/-! ## Bytes -/

theorem toList_loop (b : ByteArray) (i : Nat) (acc : List UInt8) :
    ByteArray.toList.loop b i acc = acc.reverse ++ b.data.toList.drop i := by
  fun_induction ByteArray.toList.loop b i acc with
  | case1 i acc hi ih =>
    have hlength : i < b.data.toList.length := hi
    have hbyte : b.get! i = b.data.toList[i] := getElem!_pos b.data i hi
    rw [ih, List.drop_eq_getElem_cons hlength, List.reverse_cons, List.append_assoc, hbyte]
    rfl
  | case2 i acc hi =>
    have hlength : b.data.toList.length ≤ i := Nat.le_of_not_lt hi
    rw [List.drop_eq_nil_of_le hlength, List.append_nil]

theorem bytesOf_eq_data (s : String) : bytesOf s = s.toByteArray.data.toList := toList_loop s.toByteArray 0 []

theorem bytesOf_append (q r : String) : bytesOf (q ++ r) = bytesOf q ++ bytesOf r := by
  simp [bytesOf_eq_data]

theorem bytesOf_below (q r : String) : bytesOf (q ++ "/" ++ r) = bytesOf q ++ slash :: bytesOf r := by
  rw [bytesOf_append, bytesOf_append, List.append_assoc, bytesOf_eq_data "/"]
  rfl

/-! ## What is left of a path -/

theorem mem_tails : x ∈ tails bs ↔ x <:+ bs := by
  induction bs with
  | nil => simp [tails]
  | cons b bs ih => rw [tails, List.mem_cons, ih, List.suffix_cons_iff]

theorem mem_slashTails : x ∈ slashTails bs ↔ ∃ a, bs = a ++ slash :: x := by
  induction bs with
  | nil => simp [slashTails]
  | cons b bs ih =>
    have hcons : (∃ a, b :: bs = a ++ slash :: x) ↔ (b = slash ∧ bs = x) ∨ ∃ a, bs = a ++ slash :: x := by
      constructor
      · rintro ⟨a, ha⟩
        cases a with
        | nil =>
          cases ha
          exact .inl ⟨rfl, rfl⟩
        | cons c a =>
          cases ha
          exact .inr ⟨a, rfl⟩
      · rintro (⟨rfl, rfl⟩ | ⟨a, rfl⟩)
        · exact ⟨[], rfl⟩
        · exact ⟨b :: a, rfl⟩
    rw [hcons, slashTails]
    split
    · rename_i hb
      rw [List.mem_cons, ih]
      simp [hb, eq_comm]
    · rename_i hb
      rw [ih]
      simp [hb]

theorem strip?_eq_some_iff {a : List UInt8} : strip? a bs = some x ↔ bs = a ++ x := by
  induction a generalizing bs with
  | nil => simp [strip?]
  | cons c a ih =>
    cases bs with
    | nil => simp [strip?]
    | cons b bs =>
      rw [strip?]
      split
      · rename_i hc
        rw [ih, hc, List.cons_append, List.cons_inj_right]
      · rename_i hc
        simp only [reduceCtorEq, List.cons_append, List.cons.injEq, false_iff, not_and]
        exact fun h => absurd h.symm hc

/-! ## Globs in parts, and longer paths -/

theorem accepts_append (g h : List GlobToken) (rest : List UInt8 → Bool) (bs : List UInt8) :
    accepts (g ++ h) rest bs = accepts g (accepts h rest) bs := by
  induction g generalizing bs with
  | nil => rw [List.nil_append, accepts]
  | cons t g ih =>
    rw [List.cons_append, accepts, accepts]
    congr 1
    funext bs
    exact ih bs

theorem any_tails_longer (h : ∀ x, rest x = true → rest' (x ++ more) = true) (hbs : (tails bs).any rest = true) :
    (tails (bs ++ more)).any rest' = true := by
  obtain ⟨x, hx, hrest⟩ := List.any_eq_true.mp hbs
  refine List.any_eq_true.mpr ⟨x ++ more, mem_tails.mpr ?_, h x hrest⟩
  obtain ⟨a, rfl⟩ := mem_tails.mp hx
  exact ⟨a, (List.append_assoc a x more).symm⟩

theorem any_slashTails_longer (h : ∀ x, rest x = true → rest' (x ++ more) = true)
    (hbs : (slashTails bs).any rest = true) : (slashTails (bs ++ more)).any rest' = true := by
  obtain ⟨x, hx, hrest⟩ := List.any_eq_true.mp hbs
  refine List.any_eq_true.mpr ⟨x ++ more, mem_slashTails.mpr ?_, h x hrest⟩
  obtain ⟨a, rfl⟩ := mem_slashTails.mp hx
  exact ⟨a, List.append_assoc a (slash :: x) more⟩

theorem directories_longer (h : ∀ x, rest x = true → rest' (x ++ more) = true)
    (hbs : (rest bs || (slashTails bs).any rest) = true) :
    (rest' (bs ++ more) || (slashTails (bs ++ more)).any rest') = true := by
  rcases Bool.or_eq_true _ _ ▸ hbs with hbs | hbs
  · rw [h bs hbs, Bool.true_or]
  · rw [any_slashTails_longer h hbs, Bool.or_true]

mutual

theorem acceptsToken_longer (t : GlobToken) {rest rest' : List UInt8 → Bool} {bs more : List UInt8}
    (h : ∀ x, rest x = true → rest' (x ++ more) = true) (ht : acceptsToken t rest bs = true) :
    acceptsToken t rest' (bs ++ more) = true := by
  cases t with
  | literal c =>
    rw [acceptsToken] at ht ⊢
    split at ht
    · rename_i x hx
      rw [strip?_eq_some_iff] at hx
      rw [strip?_eq_some_iff.mpr (hx ▸ List.append_assoc _ _ _)]
      exact h x ht
    · cases ht
  | any =>
    cases bs with
    | nil => simp [acceptsToken] at ht
    | cons b bs =>
      rw [acceptsToken] at ht
      rw [List.cons_append, acceptsToken]
      exact h bs ht
  | star =>
    rw [acceptsToken] at ht ⊢
    exact any_tails_longer h ht
  | anyPrefix =>
    rw [acceptsToken] at ht ⊢
    exact directories_longer h ht
  | anySuffix =>
    cases bs with
    | nil => simp [acceptsToken] at ht
    | cons b bs =>
      rw [acceptsToken, Bool.and_eq_true] at ht
      rw [List.cons_append, acceptsToken, Bool.and_eq_true]
      exact ⟨ht.1, any_tails_longer h ht.2⟩
  | anyMiddle =>
    cases bs with
    | nil => simp [acceptsToken] at ht
    | cons b bs =>
      rw [acceptsToken, Bool.and_eq_true] at ht
      rw [List.cons_append, acceptsToken, Bool.and_eq_true]
      exact ⟨ht.1, directories_longer h ht.2⟩
  | byteClass negated ranges =>
    cases bs with
    | nil => simp [acceptsToken] at ht
    | cons b bs =>
      rw [acceptsToken, Bool.and_eq_true] at ht
      rw [List.cons_append, acceptsToken, Bool.and_eq_true]
      exact ⟨ht.1, h bs ht.2⟩
  | oneOf branches =>
    rw [acceptsToken] at ht ⊢
    split at ht
    · rename_i hsilent
      rw [if_pos hsilent]
      exact h bs ht
    · rename_i hsilent
      rw [if_neg hsilent]
      exact acceptsOneOf_longer branches h ht

/-- A glob that leaves something of a path leaves more of a longer one. -/
theorem accepts_longer (ts : List GlobToken) {rest rest' : List UInt8 → Bool} {bs more : List UInt8}
    (h : ∀ x, rest x = true → rest' (x ++ more) = true) (hts : accepts ts rest bs = true) :
    accepts ts rest' (bs ++ more) = true := by
  cases ts with
  | nil =>
    rw [accepts] at hts ⊢
    exact h bs hts
  | cons t ts =>
    rw [accepts] at hts ⊢
    exact acceptsToken_longer t (fun x hx => accepts_longer ts h hx) hts

theorem acceptsOneOf_longer (branches : List (List GlobToken)) {rest rest' : List UInt8 → Bool} {bs more : List UInt8}
    (h : ∀ x, rest x = true → rest' (x ++ more) = true) (hbranches : acceptsOneOf branches rest bs = true) :
    acceptsOneOf branches rest' (bs ++ more) = true := by
  cases branches with
  | nil => simp [acceptsOneOf] at hbranches
  | cons b branches =>
    rw [acceptsOneOf, Bool.or_eq_true, Bool.and_eq_true] at hbranches ⊢
    rcases hbranches with ⟨hb, haccepts⟩ | hbranches
    · exact .inl ⟨hb, accepts_longer b h haccepts⟩
    · exact .inr (acceptsOneOf_longer branches h hbranches)

end

/-! ## What is below a path -/

/-- The glob ends with all that is below, or is `**` alone. -/
def Downward (g : Glob) : Prop := g = [.anyPrefix] ∨ ∃ h, g = h ++ [.anySuffix]

theorem accepts_anySuffix_slash (bs : List UInt8) : accepts [.anySuffix] List.isEmpty (slash :: bs) = true := by
  rw [accepts, acceptsToken]
  simp only [decide_true, Bool.true_and, List.any_eq_true]
  exact ⟨[], mem_tails.mpr (List.nil_suffix), rfl⟩

theorem fits_of_accepts (h : accepts g List.isEmpty (bytesOf q) = true) : fits g q = true := by
  unfold fits
  split
  · rfl
  · exact h

theorem accepts_of_fits (hg : g ≠ [.anyPrefix]) (h : fits g q = true) : accepts g List.isEmpty (bytesOf q) = true := by
  unfold fits at h
  split at h
  · exact absurd rfl hg
  · exact h

theorem literals?_eq_none {ts : List GlobToken} (h : .anySuffix ∈ ts) : literals? ts = none := by
  induction ts with
  | nil => cases h
  | cons t ts ih =>
    cases t with
    | literal c =>
      have hts : .anySuffix ∈ ts := by simpa using h
      rw [literals?, ih hts]
      rfl
    | any | star | anyPrefix | anySuffix | anyMiddle | byteClass _ _ | oneOf _ => rfl

theorem isName_eq_false (h : .anySuffix ∈ g) : isName g = false := by
  unfold isName
  split
  · rename_i t ts
    rw [literals?_eq_none (by simpa using h)]
    rfl
  · rfl

theorem mem_afterDirectories (h : .anySuffix ∈ g) : .anySuffix ∈ afterDirectories g := by
  unfold afterDirectories
  split
  · simpa using h
  · exact h

theorem isExtension_eq_false (h : .anySuffix ∈ g) : isExtension g = false := by
  have hmem := mem_afterDirectories h
  unfold isExtension
  split
  · rename_i ts heq
    rw [heq] at hmem
    rw [literals?_eq_none (by simpa using hmem)]
    rfl
  · rfl

/-- A glob for all that is below something is not compared with names. -/
theorem looksAtName_of_downward (h : Downward g) : looksAtName g = false := by
  rcases h with rfl | ⟨h, rfl⟩
  · rfl
  · have hmem : .anySuffix ∈ h ++ [GlobToken.anySuffix] := List.mem_append_right h (List.mem_singleton.mpr rfl)
    have hend : endsInExtension (h ++ [GlobToken.anySuffix]).reverse = false := by
      rw [List.reverse_append]
      rfl
    rw [looksAtName, isName_eq_false hmem, isExtension_eq_false hmem, hend]
    simp

theorem isMatch_of_downward (h : Downward g) : isMatch g q = fits g q := by
  rw [isMatch, looksAtName_of_downward h]
  simp

theorem fits_of_isMatch (h : isMatch g q = true) : fits g q = true := by
  rw [isMatch, Bool.and_eq_true] at h
  exact h.1

/-- What is below a path that a glob for all that is below something matches is below too. -/
theorem isMatch_below (hg : Downward g) (h : isMatch g q = true) (r : String) : isMatch g (q ++ "/" ++ r) = true := by
  rw [isMatch_of_downward hg] at h ⊢
  rcases hg with rfl | ⟨front, rfl⟩
  · rfl
  · have hne : front ++ [GlobToken.anySuffix] ≠ [.anyPrefix] := by
      intro heq
      have := congrArg List.getLast? heq
      simp at this
    have hfits := accepts_of_fits hne h
    apply fits_of_accepts
    rw [accepts_append] at hfits ⊢
    rw [bytesOf_below]
    refine accepts_longer front (fun x hx => ?_) hfits
    cases x with
    | nil => simp [accepts, acceptsToken] at hx
    | cons b x =>
      rw [accepts, acceptsToken, Bool.and_eq_true, decide_eq_true_eq] at hx
      rw [hx.1, List.cons_append]
      exact accepts_anySuffix_slash _

/-- With all that is below added, a glob matches what is below the paths that it matches alone. -/
theorem isMatch_append_anySuffix (hg : g ≠ [.anyPrefix]) (h : isMatch g q = true) (r : String) :
    isMatch (g ++ [.anySuffix]) (q ++ "/" ++ r) = true := by
  rw [isMatch_of_downward (.inr ⟨g, rfl⟩)]
  apply fits_of_accepts
  rw [accepts_append, bytesOf_below]
  refine accepts_longer g (fun x hx => ?_) (accepts_of_fits hg (fits_of_isMatch h))
  rw [List.isEmpty_iff.mp hx, List.nil_append]
  exact accepts_anySuffix_slash _

end SourceAudit.Glob
