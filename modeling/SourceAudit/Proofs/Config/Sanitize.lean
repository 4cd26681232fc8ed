import Mathlib.Data.List.Forall2
import SourceAudit.Config.Sanitize

/-!
# What is out of range in a configuration

* `Binary64.InUnit x` : the number lies between zero and one; `IsGlob p` : a pattern is a glob;
* `InRange c` : nothing in a configuration is out of range;
* `faults c` : what is out of range, in order; `Fault.subject` : what a warning about it starts with;
* `repaired c` : the configuration with standard values, or nothing, in place of what is out of range;
* `inRange_repaired`, `repaired_of_inRange` : nothing is out of range then, and nothing else changes;
* `sanitize_eq_repaired`, `reports_faults` : this is what is done, with a warning for each fault.
-/

namespace SourceAudit

namespace Binary64

/-- The number lies between zero and one. A finite number is compared with one as a multiple of the smallest positive
number. -/
def InUnit : Binary64 → Prop
  | .finite negative mantissa exponent =>
    (negative = true → mantissa = 0) ∧ mantissa * twoTo (exponent - minExponent).toNat ≤ twoTo 1074
  | _ => False

theorem units_eq (negative : Bool) (mantissa : Nat) (exponent : Int) :
    units negative mantissa exponent =
      if negative then -((mantissa * twoTo (exponent - minExponent).toNat : Nat) : Int)
      else ((mantissa * twoTo (exponent - minExponent).toNat : Nat) : Int) := by
  simp only [units, Nat.shiftLeft_eq]
  rfl

theorem inUnitRange_iff {x : Binary64} : x.inUnitRange = true ↔ x.InUnit := by
  have hzero : units false 0 minExponent = 0 := by decide
  have hone : units false (twoTo 52) (-52) = (twoTo 1074 : Nat) := by decide +kernel
  cases x with
  | nan => simp [inUnitRange, le, zero, InUnit]
  | infinite negative => cases negative <;> simp [inUnitRange, le, zero, one, InUnit]
  | finite negative mantissa exponent =>
    simp only [inUnitRange, le, zero, one, hzero, hone, Bool.and_eq_true, decide_eq_true_eq, InUnit, units_eq]
    cases negative with
    | false => simp only [Bool.false_eq_true, if_false, false_imp_iff, true_and, Int.natCast_nonneg, Int.ofNat_le]
    | true =>
      have hpos : 0 < twoTo (exponent - minExponent).toNat := Nat.pow_pos (by decide)
      have hnone : mantissa * twoTo (exponent - minExponent).toNat = 0 ↔ mantissa = 0 := by
        rw [Nat.mul_eq_zero]
        omega
      simp only [if_true, forall_const]
      omega

end Binary64

instance : DecidablePred Binary64.InUnit := fun _ => decidable_of_iff _ Binary64.inUnitRange_iff

namespace Config

/-- The pattern is a glob, apart from `./` before it and slashes behind it. -/
def IsGlob (pattern : String) : Prop := ∃ g, Glob.parse (PathFilter.normalize pattern) = .ok g

theorem globWarning?_eq_none_iff {field pattern : String} : globWarning? field pattern = none ↔ IsGlob pattern := by
  simp only [globWarning?, IsGlob]
  cases Glob.parse (PathFilter.normalize pattern) <;> simp

instance : DecidablePred IsGlob := fun pattern =>
  decidable_of_iff (globWarning? "" pattern = none) globWarning?_eq_none_iff

def Ascending (t : Taint.RiskThresholds) : Prop := t.critical ≤ t.high ∧ t.high ≤ t.medium

instance : DecidablePred Ascending := fun t => inferInstanceAs (Decidable (t.critical ≤ t.high ∧ t.high ≤ t.medium))

theorem isMonotonic_iff {t : Taint.RiskThresholds} : t.isMonotonic = true ↔ Ascending t := by
  simp [Taint.RiskThresholds.isMonotonic, Ascending]

/-- Nothing is out of range. -/
structure InRange (c : Config) : Prop where
  defaultConfidence : c.analysis.defaultConfidence.InUnit
  legacyConfidence : c.analysis.legacyConfidence.InUnit
  risk : Ascending c.analysis.risk
  includes : ∀ p ∈ c.includes, IsGlob p
  excludes : ∀ p ∈ c.excludes, IsGlob p
  minConfidence : ∀ x ∈ c.rules.minConfidence, x.InUnit

/-! ## Faults -/

/-- Something that is out of range. -/
inductive Fault where
  | confidence (name : String)
  | risk
  | pattern (field text : String)
  | minConfidence

/-- What a warning about a fault starts with. -/
def Fault.subject : Fault → String
  | confidence name => "analysis." ++ name ++ " "
  | risk => "analysis.risk "
  | pattern field text => field ++ " pattern '" ++ text ++ "' "
  | minConfidence => "rules.min_confidence "

def Reports (fault : Fault) (warning : String) : Prop := ∃ rest, warning = fault.subject ++ rest

def faultUnless (p : Prop) [Decidable p] (fault : Fault) : List Fault := if p then [] else [fault]

def faults (c : Config) : List Fault :=
  faultUnless c.analysis.defaultConfidence.InUnit (.confidence "default_confidence") ++
    faultUnless c.analysis.legacyConfidence.InUnit (.confidence "legacy_confidence") ++
    faultUnless (Ascending c.analysis.risk) .risk ++
    (c.includes.filter (¬IsGlob ·)).map (.pattern "include") ++
    (c.excludes.filter (¬IsGlob ·)).map (.pattern "exclude") ++
    faultUnless (∀ x ∈ c.rules.minConfidence, x.InUnit) .minConfidence

/-- A configuration with standard values for the confidences and thresholds that are out of range, and without the
patterns that are no globs and a least confidence that is out of range. -/
def repaired (c : Config) : Config :=
  let standard : AnalysisOptions := {}
  { includes := c.includes.filter (IsGlob ·)
    excludes := c.excludes.filter (IsGlob ·)
    rules := { c.rules with minConfidence := c.rules.minConfidence.filter (Binary64.InUnit ·) }
    analysis := { c.analysis with
      defaultConfidence :=
        if c.analysis.defaultConfidence.InUnit then c.analysis.defaultConfidence else standard.defaultConfidence
      legacyConfidence :=
        if c.analysis.legacyConfidence.InUnit then c.analysis.legacyConfidence else standard.legacyConfidence
      risk := if Ascending c.analysis.risk then c.analysis.risk else .standard } }

theorem inRange_standard : InRange {} where
  defaultConfidence := by decide +kernel
  legacyConfidence := by decide +kernel
  risk := by decide
  includes := by simp
  excludes := by simp
  minConfidence := by simp

theorem holds_of_replaced {α : Type} {p : α → Prop} [DecidablePred p] {x standard : α} (h : p standard) :
    p (if p x then x else standard) := by
  split
  · assumption
  · exact h

theorem inRange_repaired (c : Config) : InRange (repaired c) where
  defaultConfidence := holds_of_replaced inRange_standard.defaultConfidence
  legacyConfidence := holds_of_replaced inRange_standard.legacyConfidence
  risk := holds_of_replaced inRange_standard.risk
  includes := by simp [repaired]
  excludes := by simp [repaired]
  minConfidence := by simp [repaired, Option.filter_eq_some_iff]

theorem repaired_of_inRange {c : Config} (h : InRange c) : repaired c = c := by
  have hmin : c.rules.minConfidence.filter (Binary64.InUnit ·) = c.rules.minConfidence := by
    cases hc : c.rules.minConfidence with
    | none => rfl
    | some x => simp [h.minConfidence x hc]
  have hincludes : c.includes.filter (IsGlob ·) = c.includes := by simpa using h.includes
  have hexcludes : c.excludes.filter (IsGlob ·) = c.excludes := by simpa using h.excludes
  simp [repaired, h.defaultConfidence, h.legacyConfidence, h.risk, hmin, hincludes, hexcludes]

theorem faults_of_inRange {c : Config} (h : InRange c) : faults c = [] := by
  have hincludes : c.includes.filter (¬IsGlob ·) = [] := by simpa using h.includes
  have hexcludes : c.excludes.filter (¬IsGlob ·) = [] := by simpa using h.excludes
  have hmin : faultUnless (∀ x ∈ c.rules.minConfidence, x.InUnit) .minConfidence = [] := if_pos h.minConfidence
  rw [faults, hincludes, hexcludes, hmin]
  simp [faultUnless, h.defaultConfidence, h.legacyConfidence, h.risk]

/-! ## The repairs one by one -/

theorem repairConfidence_fst (name : String) (x standard : Binary64) :
    (repairConfidence name x standard).1 = if x.InUnit then x else standard := by
  simp only [repairConfidence, Binary64.inUnitRange_iff]
  split <;> rfl

theorem reports_confidence (name : String) (x standard : Binary64) :
    List.Forall₂ Reports (faultUnless x.InUnit (.confidence name)) (repairConfidence name x standard).2 := by
  simp only [repairConfidence, Binary64.inUnitRange_iff, faultUnless]
  split
  · exact .nil
  · refine .cons ⟨x.positional ++ " is outside [0, 1]; using " ++ standard.positional, ?_⟩ .nil
    simp [Fault.subject, toString, String.append_assoc]

theorem repairRisk_fst (t : Taint.RiskThresholds) : (repairRisk t).1 = if Ascending t then t else .standard := by
  simp only [repairRisk, isMonotonic_iff]
  split <;> rfl

theorem reports_risk (t : Taint.RiskThresholds) :
    List.Forall₂ Reports (faultUnless (Ascending t) .risk) (repairRisk t).2 := by
  simp only [repairRisk, isMonotonic_iff, faultUnless]
  split
  · exact .nil
  · exact .cons ⟨"thresholds must satisfy critical <= high <= medium; using defaults", rfl⟩ .nil

theorem repairPatterns_fst (field : String) (patterns : List String) :
    (repairPatterns field patterns).1 = patterns.filter (IsGlob ·) := by
  refine List.filter_congr fun p _ => ?_
  rw [Bool.eq_iff_iff, Option.isNone_iff_eq_none, globWarning?_eq_none_iff, decide_eq_true_iff]

theorem reports_of_globWarning? {field p w : String} (h : globWarning? field p = some w) :
    Reports (.pattern field p) w := by
  simp only [globWarning?] at h
  split at h
  · cases h
  · rename_i e _
    refine ⟨"is not a valid glob (" ++ e.message (PathFilter.normalize p) ++ "); ignoring it", ?_⟩
    have hquote : "' is not a valid glob (" = "' " ++ "is not a valid glob (" := by decide
    simp only [← Option.some.inj h, Fault.subject, toString, hquote, String.append_assoc]

theorem reports_patterns (field : String) (patterns : List String) :
    List.Forall₂ Reports ((patterns.filter (¬IsGlob ·)).map (.pattern field)) (repairPatterns field patterns).2 := by
  simp only [repairPatterns]
  induction patterns with
  | nil => exact .nil
  | cons p ps ih =>
    cases hw : globWarning? field p with
    | none =>
      have hp : IsGlob p := globWarning?_eq_none_iff.mp hw
      simpa [hp, List.filterMap_cons_none hw] using ih
    | some w =>
      have hp : ¬IsGlob p := fun h => by simp [globWarning?_eq_none_iff.mpr h] at hw
      rw [List.filterMap_cons_some hw, List.filter_cons_of_pos (by simpa using hp)]
      exact .cons (reports_of_globWarning? hw) ih

theorem repairMinimum_fst (m : Option Binary64) : (repairMinimum m).1 = m.filter (Binary64.InUnit ·) := by
  cases m with
  | none => rfl
  | some x =>
    simp only [repairMinimum, Binary64.inUnitRange_iff, Option.filter_some, decide_eq_true_eq]
    split <;> rfl

theorem reports_minimum (m : Option Binary64) :
    List.Forall₂ Reports (faultUnless (∀ x ∈ m, x.InUnit) .minConfidence) (repairMinimum m).2 := by
  cases m with
  | none => exact .nil
  | some x =>
    simp only [repairMinimum, Binary64.inUnitRange_iff, faultUnless, Option.mem_def, Option.some.injEq, forall_eq']
    split
    · exact .nil
    · refine .cons ⟨x.positional ++ " is outside [0, 1]; ignoring it", ?_⟩ .nil
      simp [Fault.subject, toString, String.append_assoc]

/-! ## All repairs -/

theorem sanitize_eq_repaired (c : Config) : c.sanitize.1 = repaired c := by
  simp only [sanitize, repaired, repairConfidence_fst, repairRisk_fst, repairPatterns_fst, repairMinimum_fst]

theorem reports_faults (c : Config) : List.Forall₂ Reports (faults c) c.sanitize.2 :=
  List.rel_append (List.rel_append (List.rel_append (List.rel_append (List.rel_append
    (reports_confidence _ _ _) (reports_confidence _ _ _)) (reports_risk _)) (reports_patterns _ _))
    (reports_patterns _ _)) (reports_minimum _)

theorem sanitize_of_inRange {c : Config} (h : InRange c) : c.sanitize = (c, []) := by
  have hwarnings : c.sanitize.2 = [] := by simpa [faults_of_inRange h] using reports_faults c
  have hconfig : c.sanitize.1 = c := (sanitize_eq_repaired c).trans (repaired_of_inRange h)
  exact Prod.ext hconfig hwarnings

/-- Every configuration is repaired so that nothing in it is out of range and the thresholds are kept when paths are
judged. What was in range is as before, and so is all that has no range. There is one warning for each thing that was
out of range, in order and by name. A second repair changes nothing and warns of nothing. -/
theorem sanitize_exact (c : Config) :
    InRange c.sanitize.1 ∧ c.sanitize.1.analysis.risk.kept = c.sanitize.1.analysis.risk ∧ c.sanitize.1 = repaired c ∧
      List.Forall₂ Reports (faults c) c.sanitize.2 ∧ c.sanitize.1.sanitize = (c.sanitize.1, []) := by
  have hrange : InRange c.sanitize.1 := sanitize_eq_repaired c ▸ inRange_repaired c
  have hkept : c.sanitize.1.analysis.risk.kept = c.sanitize.1.analysis.risk := if_pos (isMonotonic_iff.mpr hrange.risk)
  exact ⟨hrange, hkept, sanitize_eq_repaired c, reports_faults c, sanitize_of_inRange hrange⟩

end Config

end SourceAudit
