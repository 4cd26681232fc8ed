import SourceAudit.Proofs.Config.Sanitize
import SourceAudit.Proofs.Glob.Expansion
import SourceAudit.Proofs.Glob.Expression

/-!
# What is below a path that a filter knows

* `normalize_not_slash` : a normal pattern has no slash at its end;
* `parse_variants` : the texts that a glob stands for are globs;
* `StandsFor p q` : a glob of the pattern matches the path; `standsFor_below` : then one also matches what is below;
* `Buildable ps` : the globs of the patterns can be compared; `mem_globs_iff` : else none of them counts;
* `not_buildable_braced`, `not_buildable_marks` : there are globs that are nested too deep, and that are too large;
* `Covers ps q` : the globs of the patterns match the path; `isIncluded_iff` : what passes;
* `below_filtered_iff` : what is below a path that is left out or taken, is left out or taken.
-/

namespace SourceAudit.PathFilter

open SourceAudit.Regex (Footprint Shape)

variable {p q v : String} {ps : List String} {g : Glob}

/-! ## Texts -/

theorem dropRepeated_of_not_lead {lead cs : List Char} (h : ¬lead <+: cs) : Text.dropRepeated lead cs = cs := by
  unfold Text.dropRepeated
  cases cs.length with
  | zero => rfl
  | succ n => simp [Text.dropRepeated.go, h]

/-- What does not start with `./` does not do so with something below it either, unless it is `.` alone. -/
theorem not_lead_below (hdot : q ≠ ".") (hlead : ¬['.', '/'] <+: q.toList) (r : String) :
    ¬['.', '/'] <+: (q ++ "/" ++ r).toList := by
  have hq : q.toList ≠ ['.'] := fun h => hdot (String.toList_inj.mp h)
  simp only [String.toList_append]
  cases hcs : q.toList with
  | nil => simp
  | cons c cs =>
    rw [hcs] at hq hlead
    cases cs with
    | nil =>
      have hc : '.' ≠ c := fun h => hq (by rw [h])
      simp [hc]
    | cons d cs => simpa using hlead

theorem normalize_not_slash (pattern : String) : ¬['/'] <:+ (normalize pattern).toList := by
  rw [normalize, String.toList_ofList, Text.dropEndWhile, ← List.reverse_prefix, List.reverse_reverse]
  rintro ⟨rest, h⟩
  have hne : (Text.dropRepeated ['.', '/'] pattern.toList).reverse.dropWhile (· = '/') ≠ [] := by simp [← h]
  have hhead := List.head_dropWhile_not (· = '/') hne
  simp [← h] at hhead

/-! ## The globs of a pattern -/

theorem mem_variants_iff : v ∈ variants p ↔
    p ≠ "" ∧ (v = p ∨ v = p ++ "/**" ∨ ('/' ∉ p.toList ∧ (v = "**/" ++ p ∨ v = "**/" ++ p ++ "/**"))) := by
  unfold variants
  split
  · simp_all
  · split <;> simp_all [String.append_assoc]

theorem not_slash_anywhere (hne : p ≠ "") (hlast : ¬['/'] <:+ p.toList) : ¬['/'] <:+ ("**/" ++ p).toList := by
  have hlength : 1 ≤ p.toList.length := List.length_pos_iff.mpr (by simpa using hne)
  rw [String.toList_append]
  exact fun h => hlast (List.suffix_of_suffix_length_le h (List.suffix_append _ _) hlength)

theorem parse_variants (hlast : ¬['/'] <:+ p.toList) (h : Glob.parse p = .ok g) (hv : v ∈ variants p) :
    ∃ g', Glob.parse v = .ok g' := by
  obtain ⟨hne, rfl | rfl | ⟨hslash, rfl | rfl⟩⟩ := mem_variants_iff.mp hv
  · exact ⟨g, h⟩
  · obtain ⟨g', h', -⟩ := Glob.parse_below hlast h
    exact ⟨g', h'⟩
  · exact Glob.parse_anywhere hslash h
  · obtain ⟨g₁, h₁⟩ := Glob.parse_anywhere hslash h
    obtain ⟨g', h', -⟩ := Glob.parse_below (not_slash_anywhere hne hlast) h₁
    exact ⟨g', h'⟩

/-- Of the texts that a pattern stands for, each one that is not for what is below a path has another beside it that
is. -/
theorem variants_below (hlast : ¬['/'] <:+ p.toList) (hv : v ∈ variants p) :
    (∃ w, v = w ++ "/**") ∨ (¬['/'] <:+ v.toList ∧ v ++ "/**" ∈ variants p) := by
  simp only [mem_variants_iff] at hv ⊢
  obtain ⟨hne, rfl | rfl | ⟨hslash, rfl | rfl⟩⟩ := hv
  · exact .inr ⟨hlast, hne, .inr (.inl rfl)⟩
  · exact .inl ⟨p, rfl⟩
  · exact .inr ⟨not_slash_anywhere hne hlast, hne, .inr (.inr ⟨hslash, .inr rfl⟩)⟩
  · exact .inl ⟨_, rfl⟩

def StandsFor (p q : String) : Prop := ∃ v ∈ variants (normalize p), ∃ g, Glob.parse v = .ok g ∧ g.isMatch q = true

theorem standsFor_below (h : StandsFor p q) (r : String) : StandsFor p (q ++ "/" ++ r) := by
  obtain ⟨v, hv, g, hg, hmatch⟩ := h
  obtain ⟨w, rfl⟩ | ⟨hlast, hbelow⟩ := variants_below (normalize_not_slash p) hv
  · exact ⟨w ++ "/**", hv, g, hg, Glob.isMatch_below (Glob.downward_of_parse_below hg) hmatch r⟩
  · obtain ⟨g', hg', ⟨hne, rfl⟩ | ⟨rfl, hdown⟩⟩ := Glob.parse_below hlast hg
    · exact ⟨v ++ "/**", hbelow, _, hg', Glob.isMatch_append_anySuffix hne hmatch r⟩
    · exact ⟨v ++ "/**", hbelow, _, hg', Glob.isMatch_below hdown hmatch r⟩

/-! ## The globs of some patterns -/

theorem mem_parsed_iff : g ∈ parsed ps ↔ ∃ p ∈ ps, ∃ v ∈ variants (normalize p), Glob.parse v = .ok g := by
  have hok (v : String) : (Glob.parse v).toOption = some g ↔ Glob.parse v = .ok g := by
    cases Glob.parse v <;> simp [Except.toOption]
  simp only [parsed, List.mem_flatMap, List.mem_filterMap, hok]

/-- The globs of the patterns can be compared. -/
structure Buildable (ps : List String) : Prop where
  /-- No expression is nested too deep. -/
  shallow : ∀ g ∈ parsed ps, g.isTooDeep = false
  /-- The automata of each expression that stands alone keep to the limit. -/
  alone : ∀ g ∈ parsed ps, g.standsAlone = true → g.expression.fits = true
  /-- So do the automata of all other expressions together. -/
  together : Shape.fitTogether ((Glob.joined (parsed ps)).map Glob.expression) = true

theorem areUsable_iff : Glob.areUsable (parsed ps) = true ↔ Buildable ps := by
  simp only [Glob.areUsable, Bool.and_eq_true, List.all_eq_true, Bool.not_eq_true', Bool.or_eq_true, ← Bool.not_eq_true,
    ← imp_iff_not_or]
  simp only [Bool.not_eq_true]
  constructor
  · rintro ⟨⟨hshallow, halone⟩, htogether⟩
    exact ⟨hshallow, halone, htogether⟩
  · exact fun h => ⟨⟨h.shallow, h.alone⟩, h.together⟩

theorem mem_globs_iff : g ∈ globs ps ↔ Buildable ps ∧ ∃ p ∈ ps, ∃ v ∈ variants (normalize p), Glob.parse v = .ok g := by
  rw [globs, ← areUsable_iff, ← mem_parsed_iff]
  split <;> simp_all

/-- The globs of the patterns match the path. -/
def Covers (ps : List String) (q : String) : Prop := Buildable ps ∧ ∃ p ∈ ps, StandsFor p q

theorem any_globs_iff : (globs ps).any (·.isMatch q) = true ↔ Covers ps q := by
  simp only [List.any_eq_true, mem_globs_iff, Covers, StandsFor]
  constructor
  · rintro ⟨g, ⟨hbuild, p, hp, v, hv, hparse⟩, hmatch⟩
    exact ⟨hbuild, p, hp, v, hv, g, hparse, hmatch⟩
  · rintro ⟨hbuild, p, hp, v, hv, g, hparse, hmatch⟩
    exact ⟨g, ⟨hbuild, p, hp, v, hv, hparse⟩, hmatch⟩

theorem not_covers_nil : ¬Covers [] q := by
  simp [Covers]

theorem covers_below (h : Covers ps q) (r : String) : Covers ps (q ++ "/" ++ r) := by
  obtain ⟨hbuild, p, hp, hstands⟩ := h
  exact ⟨hbuild, p, hp, standsFor_below hstands r⟩

/-- What one pattern matches, patterns among which it is match exactly if their globs can be compared. -/
theorem covers_iff_buildable (hp : p ∈ ps) (h : Covers [p] q) : Covers ps q ↔ Buildable ps := by
  obtain ⟨-, p', hp', hstands⟩ := h
  obtain rfl := List.mem_singleton.mp hp'
  exact ⟨fun hcovers => hcovers.1, fun hbuild => ⟨hbuild, p', hp, hstands⟩⟩

/-- The patterns whose texts are all globs lose none of them exactly if these can be compared. -/
theorem globs_complete_iff (hps : ∀ p ∈ ps, ∀ v ∈ variants (normalize p), ∃ g, Glob.parse v = .ok g) :
    (∀ p ∈ ps, ∀ v ∈ variants (normalize p), ∃ g ∈ globs ps, Glob.parse v = .ok g) ↔ Buildable ps := by
  constructor
  · intro h
    cases hparsed : parsed ps with
    | nil =>
      -- no glob at all: there is nothing that can be too large
      rw [← areUsable_iff, hparsed]
      decide
    | cons g gs =>
      obtain ⟨p, hp, v, hv, -⟩ := mem_parsed_iff.mp (hparsed ▸ List.mem_cons_self : g ∈ parsed ps)
      obtain ⟨g', hg', -⟩ := h p hp v hv
      exact (mem_globs_iff.mp hg').1
  · intro hbuild p hp v hv
    obtain ⟨g, hparse⟩ := hps p hp v hv
    exact ⟨g, mem_globs_iff.mpr ⟨hbuild, p, hp, v, hv, hparse⟩, hparse⟩

/-- A pattern that is its own normal form has its glob among the globs. -/
theorem parsed_of_normal (hps : p ∈ ps) (hne : p ≠ "") (hnormal : normalize p = p) (hg : Glob.parse p = .ok g) :
    g ∈ parsed ps := by
  refine mem_parsed_iff.mpr ⟨p, hps, p, ?_, hg⟩
  rw [hnormal, mem_variants_iff]
  exact ⟨hne, .inl rfl⟩

/-! ## A glob that is nested too deep -/

/-- A letter in as many pairs of braces as are nested too deep. -/
def braces : List Char := List.replicate 250 '{' ++ 'a' :: List.replicate 250 '}'

def braced : String := String.ofList braces

theorem braced_ne_empty : braced ≠ "" := by
  have hne : braces ≠ [] := List.append_ne_nil_of_right_ne_nil _ (List.cons_ne_nil _ _)
  simpa [braced, ← String.toList_inj] using hne

theorem normalize_braced : normalize braced = braced := by
  have hkept : Text.dropEndWhile (· = '/') (Text.dropRepeated ['.', '/'] braces) = braces := by decide +kernel
  rw [normalize, braced, String.toList_ofList, hkept]

theorem parse_braced : ∃ g, Glob.parse braced = .ok g ∧ g.isTooDeep = true := by
  have hread : (Glob.read {} none braces).toOption.any
      (fun s => s.frames.isEmpty && Glob.isTooDeep s.current.reverse) = true := by decide +kernel
  cases hs : Glob.read {} none braces with
  | error e => simp [hs, Except.toOption] at hread
  | ok s =>
    simp only [hs, Except.toOption, Option.any_some, Bool.and_eq_true, List.isEmpty_iff] at hread
    exact ⟨_, Glob.parse_eq_ok_iff.mpr ⟨s, by rw [braced, String.toList_ofList, hs], hread.1, rfl⟩, hread.2⟩

theorem isGlob_braced : Config.IsGlob braced := by
  obtain ⟨g, hparse, -⟩ := parse_braced
  exact ⟨g, by rw [normalize_braced, hparse]⟩

theorem not_buildable_braced (hps : braced ∈ ps) : ¬Buildable ps := by
  obtain ⟨g, hparse, hdeep⟩ := parse_braced
  intro h
  simp [h.shallow g (parsed_of_normal hps braced_ne_empty normalize_braced hparse)] at hdeep

/-! ## A glob that is too large -/

theorem normalize_marks (n : Nat) : normalize (Glob.marks n) = Glob.marks n := by
  have hlead : ¬['.', '/'] <+: List.replicate n '?' := by
    cases n <;> simp [List.replicate_succ]
  have hlast : Text.dropEndWhile (· = '/') (List.replicate n '?') = List.replicate n '?' := by
    have hkept : (List.replicate n '?').dropWhile (· = '/') = List.replicate n '?' := by
      cases n <;> simp [List.replicate_succ]
    rw [Text.dropEndWhile, List.reverse_replicate, hkept, List.reverse_replicate]
  rw [normalize, Glob.marks, String.toList_ofList, dropRepeated_of_not_lead hlead, hlast]

theorem isGlob_marks (n : Nat) : Config.IsGlob (Glob.marks n) :=
  ⟨Glob.markTokens n, by rw [normalize_marks, Glob.parse_marks]⟩

theorem not_buildable_marks {n : Nat} (hn : Footprint.limit < 72 * n) (hps : Glob.marks n ∈ ps) : ¬Buildable ps := by
  have hne : Glob.marks n ≠ "" := by
    cases n with
    | zero => omega
    | succ n => simp [Glob.marks, ← String.toList_inj, List.replicate_succ]
  rw [← areUsable_iff, Bool.not_eq_true]
  exact Glob.not_areUsable_of_marks hn (parsed_of_normal hps hne (normalize_marks n) (Glob.parse_marks n))

/-! ## Filters -/

theorem isIncluded_iff {includes excludes : List String} (hlead : ¬['.', '/'] <+: q.toList) :
    (ofPatterns includes excludes).isIncluded q = true ↔
      (includes = [] ∨ Covers includes q) ∧ ¬Covers excludes q := by
  have hleftOut : (ofPatterns includes excludes).leftOut = globs excludes := rfl
  simp only [isIncluded, dropRepeated_of_not_lead hlead, String.ofList_toList, Bool.and_eq_true, Bool.not_eq_true',
    ← Bool.not_eq_true, hleftOut, any_globs_iff]
  cases includes with
  | nil => simp [ofPatterns]
  | cons p ps => simp only [ofPatterns, List.isEmpty_cons, Bool.false_eq_true, if_false, Option.all_some, any_globs_iff,
      reduceCtorEq, false_or]

/-- The patterns that are kept when a configuration is repaired have globs only. -/
theorem parse_variants_of_inRange {c : Config} (hc : Config.InRange c) (hps : ps ∈ [c.includes, c.excludes])
    (hp : p ∈ ps) (hv : v ∈ variants (normalize p)) : ∃ g, Glob.parse v = .ok g := by
  have hglob : Config.IsGlob p := by
    obtain rfl | rfl : ps = c.includes ∨ ps = c.excludes := by simpa using hps
    · exact hc.includes p hp
    · exact hc.excludes p hp
  obtain ⟨g, hg⟩ := hglob
  exact parse_variants (normalize_not_slash p) hg hv

/-- What is below a path that is left out, is left out, and what is below a path that is taken, is taken. If one
pattern leaves a path out, or takes it, then a list that holds the pattern does so with all that is below, exactly if
the globs of the list can be compared: none is nested too deep, and the automata of their expressions keep to the
limit. Of the patterns that are kept when a configuration is repaired, all texts are globs, and they all count,
exactly if they can be compared. -/
theorem below_filtered_iff (includes excludes : List String) (hdot : q ≠ ".") (hlead : ¬['.', '/'] <+: q.toList)
    (r : String) :
    ((ofPatterns [] excludes).isIncluded q = false →
      (ofPatterns includes excludes).isIncluded (q ++ "/" ++ r) = false) ∧
    ((ofPatterns includes []).isIncluded q = true → (ofPatterns includes []).isIncluded (q ++ "/" ++ r) = true) ∧
    (∀ p ∈ excludes, (ofPatterns [] [p]).isIncluded q = false →
      ((ofPatterns includes excludes).isIncluded (q ++ "/" ++ r) = false ↔
        Buildable excludes ∨ (ofPatterns includes []).isIncluded (q ++ "/" ++ r) = false)) ∧
    (∀ p ∈ includes, (ofPatterns [p] []).isIncluded q = true →
      ((ofPatterns includes []).isIncluded (q ++ "/" ++ r) = true ↔ Buildable includes)) ∧
    ∀ c : Config, ∀ ps ∈ [c.sanitize.1.includes, c.sanitize.1.excludes],
      (∀ p ∈ ps, ∀ v ∈ variants (normalize p), ∃ g, Glob.parse v = .ok g) ∧
      ((∀ p ∈ ps, ∀ v ∈ variants (normalize p), ∃ g ∈ globs ps, Glob.parse v = .ok g) ↔ Buildable ps) := by
  have hbelow := not_lead_below hdot hlead r
  simp only [← Bool.not_eq_true, isIncluded_iff hlead, isIncluded_iff hbelow, true_or, true_and, not_not,
    not_covers_nil, not_false_eq_true, and_true, List.cons_ne_nil, false_or]
  refine ⟨fun h hin => hin.2 (covers_below h r), fun h => h.imp_right (covers_below · r), fun p hp h => ?_,
    fun p hp h => ?_, fun c ps hps => ?_⟩
  · rw [covers_iff_buildable hp (covers_below h r), not_and_not_right, imp_iff_or_not]
  · rw [covers_iff_buildable hp (covers_below h r), or_iff_right (List.ne_nil_of_mem hp)]
  · have hvalid (p : String) (hp : p ∈ ps) (v : String) (hv : v ∈ variants (normalize p)) : ∃ g, Glob.parse v = .ok g :=
      parse_variants_of_inRange (Config.sanitize_eq_repaired c ▸ Config.inRange_repaired c) hps hp hv
    exact ⟨hvalid, globs_complete_iff hvalid⟩

/-- A pattern does not leave out what it leaves out alone, if a glob beside it is nested too deep or too large. -/
theorem below_filtered_iff_beside_braces :
    (ofPatterns [] ["vendor"]).isIncluded "vendor" = false ∧ Config.IsGlob braced ∧
      (ofPatterns [] ["vendor", braced]).isIncluded ("vendor" ++ "/" ++ "lib.py") = true ∧
      Config.IsGlob (Glob.marks 200000) ∧
      (ofPatterns [] ["vendor", Glob.marks 200000]).isIncluded ("vendor" ++ "/" ++ "lib.py") = true := by
  have halone : (ofPatterns [] ["vendor"]).isIncluded "vendor" = false := by decide +kernel
  have hall : (ofPatterns [] []).isIncluded ("vendor" ++ "/" ++ "lib.py") = true := by decide +kernel
  have hbeside (p : String) (hp : ¬Buildable ["vendor", p]) :
      (ofPatterns [] ["vendor", p]).isIncluded ("vendor" ++ "/" ++ "lib.py") = true := by
    have hiff := (below_filtered_iff [] ["vendor", p] (q := "vendor") (by decide) (by decide) "lib.py").2.2.1
      "vendor" (by simp) halone
    rw [← Bool.not_eq_false, hiff, hall]
    simp [hp]
  have hlarge : Footprint.limit < 72 * 200000 := by decide
  exact ⟨halone, isGlob_braced, hbeside _ (not_buildable_braced (by simp)), isGlob_marks _,
    hbeside _ (not_buildable_marks hlarge (by simp))⟩

end SourceAudit.PathFilter
