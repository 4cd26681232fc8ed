/-!
# Case shifts

A `CaseShift` maps the code points `first`, `first + step`, …, `last` to the code points `delta` above them. A list of
shifts is a compact table for a case mapping.
-/

namespace SourceAudit.Text

/-- A run of equally spaced code points that are all moved by the same distance. -/
structure CaseShift where
  /-- The first code point that moves. -/
  first : Nat
  /-- The last code point that moves. -/
  last : Nat
  /-- The distance from one code point that moves to the next. -/
  step : Nat
  /-- How far they move. -/
  delta : Int

namespace CaseShift

def moves (s : CaseShift) (n : Nat) : Bool :=
  s.first ≤ n && n ≤ s.last && (n - s.first) % s.step == 0

/-- Where the shift moves `n`. -/
def target (s : CaseShift) (n : Nat) : Nat := (n + s.delta).toNat

def codes (s : CaseShift) : List Nat := (List.range ((s.last - s.first) / s.step + 1)).map fun i => s.first + s.step * i

/-- The code point that the shift moves to `n`, if there is one. -/
def origin? (s : CaseShift) (n : Nat) : Option Nat :=
  let m := (n - s.delta).toNat
  if s.moves m && s.target m == n then some m else none

def ofTuple : Nat × Nat × Nat × Int → CaseShift
  | (first, last, step, delta) => ⟨first, last, step, delta⟩

end CaseShift

/-- The image of `n` under the first shift that moves it. -/
def shifted (table : List CaseShift) (n : Nat) : Nat :=
  match table.find? (·.moves n) with
  | some s => s.target n
  | none => n

end SourceAudit.Text
