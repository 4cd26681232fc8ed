import Mathlib.Tactic.Choose
import Mathlib.Data.List.Basic
import SourceAudit.Query.Matcher
import SourceAudit.Query.Prepare

/-!
# What validation reports

A query is a tree of expressions and matchers. `Segment` is one step down in it and an `Address` the way from the top;
`Part.Holds` says which part stands at an address, and `Flawed` which rules a part breaks.

* `Part.report_eq` : the report of a part is its own violations and then the reports of its children;
* `exists_flaws` : the report lists the flaws, each once and in their order;
* `Address.text_injective` : different addresses have different texts;
* `violations_exact` : what validation reports, and what it guarantees of a query that is ready to run.
-/

namespace SourceAudit.Query

/-! ## Parts and their addresses -/

/-- A step from a part of a query to a part directly in it. -/
inductive Segment where
  | source
  | sink
  | sanitizer (i : Nat)
  | pattern
  | operand (op : LogicalOp) (i : Nat)

namespace Segment

def text : Segment → String
  | source => ".source"
  | sink => ".sink"
  | sanitizer i => s!".sanitizer[{i}]"
  | pattern => ".pattern"
  | operand op i => s!".{op.name}[{i}]"

/-- The place among the steps from one part. -/
def rank : Segment → Nat
  | source => 0
  | sink => 1
  | sanitizer i => i + 2
  | pattern => 0
  | operand _ i => i

end Segment

/-- The steps from a part to a part somewhere in it. -/
abbrev Address := List Segment

namespace Address

def text : Address → String
  | [] => ""
  | s :: a => s.text ++ text a

end Address

theorem zipIdx_ordered {α : Type} (xs : List α) : xs.zipIdx.Pairwise fun x y => x.2 < y.2 := by
  rw [← List.pairwise_map, List.zipIdx_map_snd]
  exact List.pairwise_lt_range'

inductive Part where
  | expression (e : Expr)
  | matcher (m : NodeMatcher)

namespace Part

def children : Part → List (Segment × Part)
  | expression (.taint source sink sanitizers) =>
    (.source, matcher source) :: (.sink, matcher sink) :: sanitizers.zipIdx.map fun (m, i) => (.sanitizer i, matcher m)
  | expression (.logical op operands) => operands.zipIdx.map fun (e, i) => (.operand op i, expression e)
  | expression (.pattern m _) => [(.pattern, matcher m)]
  | matcher _ => []

inductive Holds : Part → Address → Part → Prop where
  | here (p : Part) : Holds p [] p
  | inside {p child part : Part} {s : Segment} {a : Address} (hchild : (s, child) ∈ p.children)
      (h : Holds child a part) :
    Holds p (s :: a) part

theorem sizeOf_child {p : Part} {c : Segment × Part} (h : c ∈ p.children) : sizeOf c.2 < sizeOf p := by
  cases p with
  | matcher m => exact absurd h List.not_mem_nil
  | expression e =>
    cases e with
    | taint source sink sanitizers =>
      simp only [children, List.mem_cons, List.mem_map] at h
      obtain rfl | rfl | ⟨⟨m, i⟩, hm, rfl⟩ := h
      · simp +arith
      · simp +arith
      · have hlt : sizeOf m < sizeOf sanitizers := List.sizeOf_lt_of_mem (List.fst_mem_of_mem_zipIdx hm)
        simp only [matcher.sizeOf_spec, expression.sizeOf_spec, Expr.taint.sizeOf_spec]
        omega
    | logical op operands =>
      obtain ⟨⟨e, i⟩, he, rfl⟩ := List.mem_map.mp h
      have hlt : sizeOf e < sizeOf operands := List.sizeOf_lt_of_mem (List.fst_mem_of_mem_zipIdx he)
      simp only [expression.sizeOf_spec, Expr.logical.sizeOf_spec]
      omega
    | pattern m reason =>
      obtain rfl := List.mem_singleton.mp h
      simp +arith

/-- What holds of a part if it holds of the parts in it, holds of every part. -/
theorem induct {motive : Part → Prop} (step : ∀ p, (∀ c ∈ p.children, motive c.2) → motive p) (p : Part) : motive p :=
  step p fun c hc =>
    have := sizeOf_child hc
    induct step c.2
termination_by sizeOf p

theorem children_ordered (p : Part) : p.children.Pairwise fun c d => c.1.rank < d.1.rank := by
  cases p with
  | matcher m => exact .nil
  | expression e =>
    cases e with
    | taint source sink sanitizers =>
      have hsanitizers : ∀ c ∈ sanitizers.zipIdx.map fun (m, i) => (Segment.sanitizer i, matcher m), 1 < c.1.rank := by
        intro c hc
        obtain ⟨⟨m, i⟩, -, rfl⟩ := List.mem_map.mp hc
        exact Nat.lt_add_left i (Nat.lt_succ_self 1)
      refine .cons (List.forall_mem_cons.mpr ⟨Nat.zero_lt_one, fun c hc => ?_⟩) (.cons hsanitizers ?_)
      · exact Nat.lt_trans Nat.zero_lt_one (hsanitizers c hc)
      · exact List.pairwise_map.mpr ((zipIdx_ordered sanitizers).imp fun h => Nat.add_lt_add_right h 2)
    | logical op operands => exact List.pairwise_map.mpr ((zipIdx_ordered operands).imp fun h => h)
    | pattern m reason => exact List.pairwise_singleton _ _

/-! ## The report of a part -/

/-- What each check of a part finds in the part itself, not in the parts in it. -/
def checks (closedWorld : Bool) : Part → List (List Violation)
  | expression (.logical op operands) => [operandViolations closedWorld op operands.length]
  | expression _ => []
  | matcher m =>
    (if m.kinds.members.isEmpty then [.noKinds] else []) ::
    (if m.kinds.members.any fun k => Text.allBlank k.toList then [.blankKind] else []) ::
    (if m.patterns.isEmpty then [.noPatterns] else []) ::
    m.patterns.map PatternSpec.violations

def report (closedWorld : Bool) (path : String) : Part → List Located
  | expression e => e.violations closedWorld path
  | matcher m => m.violationsAt path

theorem operandsViolations_eq (closedWorld : Bool) (path : String) (op : LogicalOp) (es : List Expr) (i : Nat) :
    Expr.operandsViolations closedWorld s!"{path}.{op.name}" i es =
      (es.zipIdx i).flatMap fun (e, j) => e.violations closedWorld (path ++ (Segment.operand op j).text) := by
  induction es generalizing i with
  | nil => rfl
  | cons e es ih =>
    have hpath (front : String) (hfront : front = s!"{path}.{op.name}") :
        s!"{front}[{i}]" = path ++ (Segment.operand op i).text := by
      simp only [hfront, Segment.text, toString, String.append_assoc]
    rw [Expr.operandsViolations, ih, List.zipIdx_cons, List.flatMap_cons, hpath _ rfl]

theorem report_eq (closedWorld : Bool) (path : String) (p : Part) :
    p.report closedWorld path = (p.checks closedWorld).flatten.map (⟨path, ·⟩) ++
      p.children.flatMap fun c => c.2.report closedWorld (path ++ c.1.text) := by
  cases p with
  | matcher m =>
    rw [children, List.flatMap_nil, List.append_nil, report, NodeMatcher.violationsAt, NodeMatcher.violations, checks,
      List.flatten_cons, List.flatten_cons, List.flatten_cons, List.append_assoc, List.append_assoc, List.flatMap_def]
  | expression e =>
    cases e with
    | taint source sink sanitizers =>
      have hpath (i : Nat) : s!"{path}.sanitizer[{i}]" = path ++ (Segment.sanitizer i).text := by
        simp only [Segment.text, toString, String.append_assoc]
      rw [report, Expr.violations, children, List.flatMap_cons, List.flatMap_cons, List.flatMap_map, List.append_assoc]
      simp only [hpath]
      rfl
    | logical op operands =>
      rw [report, Expr.violations, operandsViolations_eq, children, List.flatMap_map, checks, List.flatten_singleton]
      rfl
    | pattern m reason =>
      rw [report, Expr.violations, children, List.flatMap_singleton]
      rfl

end Part

/-! ## Flaws -/

/-- A part breaks a rule: the number of the check that finds it, and the violation. -/
inductive Flawed (closedWorld : Bool) : Part → Nat → Violation → Prop where
  | tooFewOperands {op : LogicalOp} {operands : List Expr} (hop : op ≠ .not) (h : operands.length < 2) :
    Flawed closedWorld (.expression (.logical op operands)) 0 (.tooFewOperands op operands.length)
  | notOneOperand {operands : List Expr} (h : operands.length ≠ 1) :
    Flawed closedWorld (.expression (.logical .not operands)) 0 (.notOneOperand operands.length)
  | needsClosedWorld {operands : List Expr} (h : operands.length = 1) (hworld : closedWorld = false) :
    Flawed closedWorld (.expression (.logical .not operands)) 0 .notNeedsClosedWorld
  | noKinds {m : NodeMatcher} (h : m.kinds.members = []) : Flawed closedWorld (.matcher m) 0 .noKinds
  | blankKind {m : NodeMatcher} {kind : String} (hkind : kind ∈ m.kinds.members) (h : ∀ c ∈ kind.toList,
      Text.isBlank c) :
    Flawed closedWorld (.matcher m) 1 .blankKind
  | noPatterns {m : NodeMatcher} (h : m.patterns = []) : Flawed closedWorld (.matcher m) 2 .noPatterns
  | emptyLiteral {m : NodeMatcher} {i : Nat} {spec : PatternSpec} (hspec : m.patterns[i]? = some spec)
      (hkind : spec.kind = .literal) (h : spec.value = "") : Flawed closedWorld (.matcher m) (i + 3) .emptyLiteral
  | invalidRegex {m : NodeMatcher} {i : Nat} {spec : PatternSpec} {e : Regex.Error} (hspec : m.patterns[i]? = some spec)
      (hkind : spec.kind = .regex) (h : Regex.parse spec.value (!spec.caseSensitive) = .error e) :
    Flawed closedWorld (.matcher m) (i + 3) (.invalidRegex spec e)

/-- A violation in a query: the part it is found in, the number of the check that finds it there, and what is wrong. -/
structure Flaw where
  address : Address
  check : Nat
  violation : Violation

namespace Flaw

/-- The flaw as it is reported, in a part with the given path. -/
def located (path : String) (f : Flaw) : Located := ⟨path ++ f.address.text, f.violation⟩

def message (f : Flaw) : String := "query" ++ f.address.text ++ ": " ++ f.violation.message

/-- The same flaw, seen from a part one step further out. -/
def under (s : Segment) (f : Flaw) : Flaw := { f with address := s :: f.address }

def IsIn (closedWorld : Bool) (p : Part) (f : Flaw) : Prop :=
  ∃ part, p.Holds f.address part ∧ Flawed closedWorld part f.check f.violation

/-- Pre-order: a part comes before the parts in it, these come in the order of their ranks, and the flaws of one part
in the order of the checks. -/
def Before (f g : Flaw) : Prop :=
  f.address.map Segment.rank < g.address.map Segment.rank ∨ f.address = g.address ∧ f.check < g.check

end Flaw

/-! ## The flaws of one part -/

theorem Flaw.located_under (path : String) (s : Segment) (f : Flaw) :
    (f.under s).located path = f.located (path ++ s.text) := by
  rw [Flaw.located, Flaw.located, Flaw.under, Address.text, String.append_assoc]

theorem Flaw.Before.under {s : Segment} {f g : Flaw} (h : f.Before g) : (f.under s).Before (g.under s) := by
  rcases h with h | ⟨haddress, hcheck⟩
  · exact .inl (List.Lex.cons h)
  · exact .inr ⟨congrArg (s :: ·) haddress, hcheck⟩

theorem PatternSpec.mem_violations {spec : PatternSpec} {v : Violation} :
    v ∈ spec.violations ↔ (spec.kind = .literal ∧ spec.value = "" ∧ v = .emptyLiteral) ∨
      (spec.kind = .regex ∧ ∃ e, spec.compile = .error e ∧ v = .invalidRegex spec e) := by
  unfold PatternSpec.violations
  cases spec.kind with
  | literal => simp
  | regex => cases spec.compile <;> simp

theorem mem_operandViolations {closedWorld : Bool} {op : LogicalOp} {n : Nat} {v : Violation} :
    v ∈ operandViolations closedWorld op n ↔ (op ≠ .not ∧ n < 2 ∧ v = .tooFewOperands op n) ∨
      (op = .not ∧ n ≠ 1 ∧ v = .notOneOperand n) ∨
      (op = .not ∧ n = 1 ∧ closedWorld = false ∧ v = .notNeedsClosedWorld) := by
  cases op with
  | and => simp [operandViolations]
  | or => simp [operandViolations]
  | not =>
    by_cases h : n = 1
    · cases closedWorld <;> simp [operandViolations, h]
    · simp [operandViolations, h]

namespace Part

theorem mem_check {closedWorld : Bool} {p : Part} {n : Nat} {v : Violation} :
    (∃ vs, (p.checks closedWorld)[n]? = some vs ∧ v ∈ vs) ↔ Flawed closedWorld p n v := by
  constructor
  · rintro ⟨vs, hvs, hv⟩
    cases p with
    | expression e =>
      cases e with
      | taint source sink sanitizers => exact absurd hvs (by simp [checks])
      | pattern m reason => exact absurd hvs (by simp [checks])
      | logical op operands =>
        obtain ⟨rfl, rfl⟩ : n = 0 ∧ operandViolations closedWorld op operands.length = vs := by
          simpa [checks, List.getElem?_singleton] using hvs
        rcases mem_operandViolations.mp hv with ⟨hop, h, rfl⟩ | ⟨rfl, h, rfl⟩ | ⟨rfl, h, hworld, rfl⟩
        · exact .tooFewOperands hop h
        · exact .notOneOperand h
        · exact .needsClosedWorld h hworld
    | matcher m =>
      match n with
      | 0 =>
        obtain rfl := Option.some.inj hvs
        obtain ⟨h, rfl⟩ := by simpa using hv
        exact .noKinds h
      | 1 =>
        obtain rfl := Option.some.inj hvs
        obtain ⟨⟨kind, hkind, h⟩, rfl⟩ := by simpa [Text.allBlank] using hv
        exact .blankKind hkind h
      | 2 =>
        obtain rfl := Option.some.inj hvs
        obtain ⟨h, rfl⟩ := by simpa using hv
        exact .noPatterns h
      | i + 3 =>
        obtain ⟨spec, hspec, rfl⟩ : ∃ spec, m.patterns[i]? = some spec ∧ spec.violations = vs := by
          simpa [checks] using hvs
        rcases PatternSpec.mem_violations.mp hv with ⟨hkind, h, rfl⟩ | ⟨hkind, e, h, rfl⟩
        · exact .emptyLiteral hspec hkind h
        · exact .invalidRegex hspec hkind h
  · intro h
    cases h with
    | tooFewOperands hop h => exact ⟨_, rfl, mem_operandViolations.mpr (.inl ⟨hop, h, rfl⟩)⟩
    | notOneOperand h => exact ⟨_, rfl, mem_operandViolations.mpr (.inr (.inl ⟨rfl, h, rfl⟩))⟩
    | needsClosedWorld h hworld => exact ⟨_, rfl, mem_operandViolations.mpr (.inr (.inr ⟨rfl, h, hworld, rfl⟩))⟩
    | noKinds h => exact ⟨_, rfl, by simp [h]⟩
    | blankKind hkind h => exact ⟨_, rfl, by simpa [Text.allBlank] using ⟨_, hkind, h⟩⟩
    | noPatterns h => exact ⟨_, rfl, by simp [h]⟩
    | emptyLiteral hspec hkind h =>
      exact ⟨_, by simp [checks, hspec], PatternSpec.mem_violations.mpr (.inl ⟨hkind, h, rfl⟩)⟩
    | invalidRegex hspec hkind h =>
      exact ⟨_, by simp [checks, hspec], PatternSpec.mem_violations.mpr (.inr ⟨hkind, _, h, rfl⟩)⟩

theorem length_check {closedWorld : Bool} {p : Part} {vs : List Violation} (h : vs ∈ p.checks closedWorld) :
    vs.length ≤ 1 := by
  have hite (c : Bool) (v : Violation) : (if c then [v] else []).length ≤ 1 := by cases c <;> simp
  cases p with
  | expression e =>
    cases e with
    | taint source sink sanitizers => exact absurd h List.not_mem_nil
    | pattern m reason => exact absurd h List.not_mem_nil
    | logical op operands =>
      obtain rfl := List.mem_singleton.mp h
      unfold operandViolations
      split <;> split_ifs <;> simp
  | matcher m =>
    simp only [checks, List.mem_cons, List.mem_map] at h
    obtain rfl | rfl | rfl | ⟨spec, -, rfl⟩ := h
    · exact hite _ _
    · exact hite _ _
    · exact hite _ _
    · unfold PatternSpec.violations
      split
      · split_ifs <;> simp
      · split <;> simp

/-- The flaws of a part itself, check by check. -/
def ownFlaws (closedWorld : Bool) (p : Part) : List Flaw :=
  (p.checks closedWorld).zipIdx.flatMap fun (vs, n) => vs.map (⟨[], n, ·⟩)

theorem mem_ownFlaws {closedWorld : Bool} {p : Part} {f : Flaw} :
    f ∈ p.ownFlaws closedWorld ↔ f.address = [] ∧ Flawed closedWorld p f.check f.violation := by
  rw [ownFlaws, List.mem_flatMap, ← mem_check]
  constructor
  · rintro ⟨⟨vs, n⟩, hvs, hf⟩
    obtain ⟨v, hv, rfl⟩ := List.mem_map.mp hf
    exact ⟨rfl, vs, List.mem_zipIdx_iff_getElem?.mp hvs, hv⟩
  · rintro ⟨haddress, vs, hvs, hv⟩
    refine ⟨(vs, f.check), List.mem_zipIdx_iff_getElem?.mpr hvs, List.mem_map.mpr ⟨f.violation, hv, ?_⟩⟩
    rw [← haddress]

theorem ownFlaws_ordered (closedWorld : Bool) (p : Part) : (p.ownFlaws closedWorld).Pairwise Flaw.Before := by
  rw [ownFlaws, List.pairwise_flatMap]
  constructor
  · rintro ⟨vs, n⟩ hvs
    have hlength : vs.length ≤ 1 := length_check (List.fst_mem_of_mem_zipIdx hvs)
    rcases vs with _ | ⟨v, _ | ⟨w, vs⟩⟩
    · exact .nil
    · exact List.pairwise_singleton _ _
    · exact absurd hlength (by simp)
  · refine (zipIdx_ordered _).imp fun hlt f hf g hg => ?_
    obtain ⟨v, -, rfl⟩ := List.mem_map.mp hf
    obtain ⟨w, -, rfl⟩ := List.mem_map.mp hg
    exact .inr ⟨rfl, hlt⟩

theorem map_located_ownFlaws (closedWorld : Bool) (path : String) (p : Part) :
    (p.ownFlaws closedWorld).map (Flaw.located path) = (p.checks closedWorld).flatten.map (⟨path, ·⟩) := by
  have hlocated (n : Nat) : Flaw.located path ∘ (⟨[], n, ·⟩) = fun v => (⟨path, v⟩ : Located) := by
    funext v
    exact congrArg (Located.mk · v) String.append_empty
  calc (p.ownFlaws closedWorld).map (Flaw.located path)
    _ = (p.checks closedWorld).zipIdx.flatMap fun x => x.1.map (⟨path, ·⟩) := by
      rw [ownFlaws, List.map_flatMap]
      simp only [List.map_map, hlocated]
    _ = ((p.checks closedWorld).zipIdx.map Prod.fst).flatMap fun vs => vs.map (⟨path, ·⟩) := (List.flatMap_map ..).symm
    _ = (p.checks closedWorld).flatten.map (⟨path, ·⟩) := by
      rw [List.zipIdx_map_fst, List.map_flatten, List.flatMap_def]

end Part

/-! ## All flaws of a query -/

/-- The flaws that are listed are those that there are, each once and in pre-order. -/
structure Lists (closedWorld : Bool) (p : Part) (flaws : List Flaw) : Prop where
  ordered : flaws.Pairwise Flaw.Before
  mem_iff : ∀ f, f ∈ flaws ↔ f.IsIn closedWorld p

theorem Lists.of_children {closedWorld : Bool} {p : Part} {flaws : Segment × Part → List Flaw}
    (h : ∀ c ∈ p.children, Lists closedWorld c.2 (flaws c)) :
    Lists closedWorld p (p.ownFlaws closedWorld ++ p.children.flatMap fun c => (flaws c).map (Flaw.under c.1)) where
  ordered := by
    refine List.pairwise_append.mpr ⟨p.ownFlaws_ordered closedWorld, List.pairwise_flatMap.mpr ⟨fun c hc => ?_, ?_⟩, ?_⟩
    · exact List.pairwise_map.mpr ((h c hc).ordered.imp Flaw.Before.under)
    · refine p.children_ordered.imp fun hrank f hf g hg => ?_
      obtain ⟨f, -, rfl⟩ := List.mem_map.mp hf
      obtain ⟨g, -, rfl⟩ := List.mem_map.mp hg
      exact .inl (List.Lex.rel hrank)
    · intro f hf g hg
      obtain ⟨c, -, hg⟩ := List.mem_flatMap.mp hg
      obtain ⟨g, -, rfl⟩ := List.mem_map.mp hg
      refine .inl ?_
      rw [(Part.mem_ownFlaws.mp hf).1]
      exact List.Lex.nil
  mem_iff := by
    intro f
    rw [List.mem_append, Part.mem_ownFlaws, List.mem_flatMap]
    constructor
    · rintro (⟨haddress, hf⟩ | ⟨c, hc, hf⟩)
      · exact ⟨p, haddress ▸ .here p, hf⟩
      · obtain ⟨g, hg, rfl⟩ := List.mem_map.mp hf
        obtain ⟨part, hpart, hflawed⟩ := ((h c hc).mem_iff g).mp hg
        exact ⟨part, .inside hc hpart, hflawed⟩
    · rintro ⟨part, hpart, hflawed⟩
      obtain ⟨address, n, v⟩ := f
      cases hpart with
      | here => exact .inl ⟨rfl, hflawed⟩
      | inside hchild hpart =>
        exact .inr ⟨_, hchild, List.mem_map.mpr ⟨⟨_, n, v⟩, ((h _ hchild).mem_iff _).mpr ⟨part, hpart, hflawed⟩, rfl⟩⟩

theorem exists_flaws (closedWorld : Bool) (p : Part) :
    ∃ flaws, Lists closedWorld p flaws ∧ ∀ path, p.report closedWorld path = flaws.map (Flaw.located path) := by
  induction p using Part.induct with
  | step p ih =>
    choose! flaws hflaws using ih
    refine ⟨_, .of_children fun c hc => (hflaws c hc).1, fun path => ?_⟩
    rw [Part.report_eq, List.map_append, Part.map_located_ownFlaws, List.map_flatMap]
    congr 1
    refine List.flatMap_congr fun c hc => ?_
    rw [(hflaws c hc).2, List.map_map]
    refine List.map_congr_left fun f _ => ?_
    rw [Function.comp_apply, Flaw.located_under]

/-! ## Different parts have different paths -/

namespace Segment

theorem toList_sanitizer (i : Nat) :
    (sanitizer i).text.toList = '.' :: ("sanitizer[".toList ++ (Nat.toDigits 10 i ++ [']'])) := by
  simp only [text, toString, String.toList_append, Nat.toList_repr, List.append_assoc]
  rfl

theorem toList_operand (op : LogicalOp) (i : Nat) :
    (operand op i).text.toList = '.' :: (op.name.toList ++ '[' :: (Nat.toDigits 10 i ++ [']'])) := by
  simp only [text, toString, String.toList_append, Nat.toList_repr, List.append_assoc]
  rfl

theorem toList_text (s : Segment) : ∃ name, s.text.toList = '.' :: name ∧ '.' ∉ name := by
  have hdigits (i : Nat) : '.' ∉ Nat.toDigits 10 i := by
    intro h
    exact absurd (Nat.isDigit_of_mem_toDigits (by decide) (by decide) h) (by decide)
  cases s with
  | source => exact ⟨_, rfl, by decide⟩
  | sink => exact ⟨_, rfl, by decide⟩
  | pattern => exact ⟨_, rfl, by decide⟩
  | sanitizer i => exact ⟨_, toList_sanitizer i, by simp [hdigits]⟩
  | operand op i => exact ⟨_, toList_operand op i, by cases op <;> simp [hdigits, LogicalOp.name]⟩

theorem text_injective : Function.Injective text := by
  intro s t h
  have h := congrArg String.toList h
  have hsource : source.text.toList = '.' :: "source".toList := rfl
  have hsink : sink.text.toList = '.' :: "sink".toList := rfl
  have hpattern : pattern.text.toList = '.' :: "pattern".toList := rfl
  have hdigits {i j : Nat} : Nat.toDigits 10 i = Nat.toDigits 10 j ↔ i = j := by
    constructor
    · intro h
      rw [← Nat.ofDigitChars_ten_toDigits (n := i), h, Nat.ofDigitChars_ten_toDigits]
    · rintro rfl
      rfl
  rcases s with _ | _ | i | _ | ⟨_ | _ | _, i⟩ <;> rcases t with _ | _ | j | _ | ⟨_ | _ | _, j⟩ <;>
    simp [hsource, hsink, hpattern, toList_sanitizer, toList_operand, LogicalOp.name, hdigits] at h ⊢ <;> exact h

end Segment

theorem Address.text_injective : Function.Injective Address.text := by
  -- what follows a step is empty or begins with a dot, so the first dot after the first one ends it
  have hstep (s : Segment) (a : Address) : ∃ name, (Address.text (s :: a)).toList = '.' :: (name ++ (text a).toList) ∧
      s.text.toList = '.' :: name ∧ (name ++ (text a).toList).takeWhile (· != '.') = name := by
    obtain ⟨name, hs, hdot⟩ := s.toList_text
    have hrest : (text a).toList.takeWhile (· != '.') = [] := by
      cases a with
      | nil => rfl
      | cons t a =>
        obtain ⟨name, ht, -⟩ := t.toList_text
        rw [text, String.toList_append, ht]
        rfl
    have hname : ∀ c ∈ name, (c != '.') = true := fun c hc => bne_iff_ne.mpr fun heq => hdot (heq ▸ hc)
    exact ⟨name, by rw [text, String.toList_append, hs, List.cons_append], hs,
      by rw [List.takeWhile_append_of_pos hname, hrest, List.append_nil]⟩
  intro a
  induction a with
  | nil =>
    intro b h
    cases b with
    | nil => rfl
    | cons t b =>
      obtain ⟨name, hname, -⟩ := hstep t b
      rw [← h] at hname
      cases hname
  | cons s a ih =>
    intro b h
    cases b with
    | nil =>
      obtain ⟨name, hname, -⟩ := hstep s a
      rw [h] at hname
      cases hname
    | cons t b =>
      obtain ⟨name, htext, hs, hname⟩ := hstep s a
      obtain ⟨name', htext', ht, hname'⟩ := hstep t b
      have heq : name ++ (text a).toList = name' ++ (text b).toList := by
        rw [h, htext'] at htext
        exact (List.cons.inj htext).2.symm
      have hnames : name = name' := by rw [← hname, heq, hname']
      subst hnames
      have hst : s = t := Segment.text_injective (String.toList_injective (hs.trans ht.symm))
      have hab : a = b := ih (String.toList_injective (List.append_cancel_left heq))
      rw [hst, hab]

/-! ## Valid queries -/

theorem violations_eq_nil_iff {q : Query} {closedWorld : Bool} :
    q.violations closedWorld = [] ↔ ∀ f, ¬ Flaw.IsIn closedWorld (.expression q.expression) f := by
  obtain ⟨flaws, hlists, hreport⟩ := exists_flaws closedWorld (.expression q.expression)
  have hviolations : q.violations closedWorld = flaws.map (Flaw.located "query") := hreport "query"
  rw [hviolations, List.map_eq_nil_iff, List.eq_nil_iff_forall_not_mem]
  exact forall_congr' fun f => not_congr (hlists.mem_iff f)

theorem Flawed.change_world {closedWorld : Bool} {p : Part} {n : Nat} {v : Violation} (h : Flawed closedWorld p n v)
    (hnot : ∀ operands, p ≠ .expression (.logical .not operands)) (closedWorld' : Bool) :
    Flawed closedWorld' p n v := by
  cases h with
  | tooFewOperands hop h => exact .tooFewOperands hop h
  | notOneOperand h => exact absurd rfl (hnot _)
  | needsClosedWorld h hworld => exact absurd rfl (hnot _)
  | noKinds h => exact .noKinds h
  | blankKind hkind h => exact .blankKind hkind h
  | noPatterns h => exact .noPatterns h
  | emptyLiteral hspec hkind h => exact .emptyLiteral hspec hkind h
  | invalidRegex hspec hkind h => exact .invalidRegex hspec hkind h

/-- In an open world NOT is always wrong. -/
theorem exists_flawed_not (operands : List Expr) : ∃ v, Flawed false (.expression (.logical .not operands)) 0 v := by
  by_cases h : operands.length = 1
  · exact ⟨_, .needsClosedWorld h rfl⟩
  · exact ⟨_, .notOneOperand h⟩

/-- An open world forbids NOT and nothing else. -/
theorem violations_open_eq_nil_iff {q : Query} :
    q.violations false = [] ↔ q.violations true = [] ∧
      ∀ address operands, ¬ Part.Holds (.expression q.expression) address (.expression (.logical .not operands)) := by
  rw [violations_eq_nil_iff, violations_eq_nil_iff]
  constructor
  · intro h
    have hnot (address : Address) (operands : List Expr) :
        ¬ Part.Holds (.expression q.expression) address (.expression (.logical .not operands)) := by
      intro hholds
      obtain ⟨v, hv⟩ := exists_flawed_not operands
      exact h ⟨address, 0, v⟩ ⟨_, hholds, hv⟩
    refine ⟨fun f hf => ?_, hnot⟩
    obtain ⟨part, hholds, hflawed⟩ := hf
    exact h f ⟨part, hholds, hflawed.change_world (fun operands hpart => hnot _ operands (hpart ▸ hholds)) false⟩
  · rintro ⟨h, hnot⟩ f ⟨part, hholds, hflawed⟩
    exact h f ⟨part, hholds, hflawed.change_world (fun operands hpart => hnot _ operands (hpart ▸ hholds)) true⟩

/-- The matchers of a valid query have kinds and patterns, and every pattern can be made ready. -/
theorem ready_of_valid {q : Query} {closedWorld : Bool} (h : q.violations closedWorld = []) {address : Address}
    {m : NodeMatcher} (hm : Part.Holds (.expression q.expression) address (.matcher m)) :
    m.kinds.members ≠ [] ∧ m.patterns ≠ [] ∧ .never ∉ m.ready.patterns := by
  have hsound {n : Nat} {v : Violation} (hflawed : Flawed closedWorld (.matcher m) n v) : False :=
    violations_eq_nil_iff.mp h ⟨address, n, v⟩ ⟨_, hm, hflawed⟩
  refine ⟨fun hkinds => hsound (.noKinds hkinds), fun hpatterns => hsound (.noPatterns hpatterns), fun hnever => ?_⟩
  obtain ⟨spec, hspec, hready⟩ := List.mem_map.mp hnever
  obtain ⟨i, hi⟩ := List.mem_iff_getElem?.mp hspec
  unfold ReadyPattern.ofSpec at hready
  split at hready
  · cases hready
  · rename_i hkind
    split at hready
    · cases hready
    · rename_i e he
      exact hsound (.invalidRegex hi hkind he)

theorem prepare_ok {hints : Bool} {source : String} {q : Query} (h : prepare hints source = .ok q) :
    q.violations true = [] ∧ ∃ q', parseQuery source = .ok q' ∧ q'.expression = q.expression := by
  unfold prepare at h
  split at h
  · cases h
  · rename_i q' hq'
    split at h
    · rename_i hvalid
      have hexpression : q'.expression = q.expression := by
        cases hints <;> cases h <;> rfl
      exact ⟨by rwa [violations, ← hexpression], q', hq', hexpression⟩
    · cases h

/-- **Validation is exact.** It reports the flaws of a query: every one once, in pre-order, and under the path of the
part it is in, which no other part has. Nothing is reported of a query without flaws. In an open world NOT is
forbidden besides.

A query that is ready to run has the expression that was written. Each of its matchers has a kind and a pattern, and
all of its patterns can be matched. -/
theorem violations_exact (q : Query) (closedWorld : Bool) :
    (∃ flaws : List Flaw, (q.violations closedWorld).map Located.message = flaws.map Flaw.message ∧
      flaws.Pairwise Flaw.Before ∧ ∀ f, f ∈ flaws ↔ f.IsIn closedWorld (.expression q.expression)) ∧
    Function.Injective Address.text ∧
    (q.violations closedWorld = [] ↔ ∀ f, ¬ Flaw.IsIn closedWorld (.expression q.expression) f) ∧
    (q.violations false = [] ↔ q.violations true = [] ∧
      ∀ address operands, ¬ Part.Holds (.expression q.expression) address (.expression (.logical .not operands))) ∧
    ∀ hints source, prepare hints source = .ok q →
      (∃ q', parseQuery source = .ok q' ∧ q'.expression = q.expression) ∧
      ∀ address m, Part.Holds (.expression q.expression) address (.matcher m) →
        m.kinds.members ≠ [] ∧ m.patterns ≠ [] ∧ .never ∉ m.ready.patterns := by
  refine ⟨?_, Address.text_injective, violations_eq_nil_iff, violations_open_eq_nil_iff,
    fun hints source hprepare => ?_⟩
  · obtain ⟨flaws, hlists, hreport⟩ := exists_flaws closedWorld (.expression q.expression)
    have hviolations : q.violations closedWorld = flaws.map (Flaw.located "query") := hreport "query"
    refine ⟨flaws, ?_, hlists.ordered, hlists.mem_iff⟩
    rw [hviolations, List.map_map]
    rfl
  · obtain ⟨hvalid, hexpression⟩ := prepare_ok hprepare
    exact ⟨hexpression, fun address m hm => ready_of_valid hvalid hm⟩

/-- A query that is ready to run. -/
theorem violations_exact_of_regex :
    ∃ q m, prepare true "\x7bB|C: /y+z/\x7d" = .ok q ∧
      Part.Holds (.expression q.expression) [.pattern] (.matcher m) ∧
      m.kinds.members ≠ [] ∧ m.patterns ≠ [] ∧ .never ∉ m.ready.patterns := by
  have hkind : (prepare true "\x7bB|C: /y+z/\x7d").toOption.map (·.expression.kindName) = some "pattern" := by
    decide +kernel
  cases hq : prepare true "\x7bB|C: /y+z/\x7d" with
  | error e =>
    rw [hq] at hkind
    cases hkind
  | ok q =>
    rw [hq] at hkind
    have hpattern : q.expression.kindName = "pattern" := Option.some.inj hkind
    cases hexpression : q.expression with
    | taint => simp [hexpression, Expr.kindName] at hpattern
    | logical => simp [hexpression, Expr.kindName] at hpattern
    | pattern m reason =>
      have hholds : Part.Holds (.expression (.pattern m reason)) [.pattern] (.matcher m) :=
        .inside List.mem_cons_self (.here _)
      obtain ⟨-, hmatchers⟩ := (violations_exact q true).2.2.2.2 true _ hq
      exact ⟨q, m, rfl, hexpression ▸ hholds, hmatchers _ m (hexpression ▸ hholds)⟩

end SourceAudit.Query
