import SourceAudit.Binary64.Basic

/-!
# The shortest decimal form

`shortest tie m e` gives digits `d` and an exponent `k` such that `d * 10 ^ k` is nearest to `m * 2 ^ e` among the
decimals of the fewest digits that round to it. The decimals that round to a number fill an interval around it; for
one, two, … digits the two neighbours of the number on that decimal grid are tried, all in exact integer arithmetic.
If both are as near, `tie` decides.
-/

namespace SourceAudit.Binary64

/-- The decimals that round to a number: those from `low / den` to `high / den`, the ends only if `closed`. The number
itself is `mid / den`. -/
structure Interval where
  low : Nat
  mid : Nat
  high : Nat
  den : Nat
  closed : Bool

/-- The interval of `m * 2 ^ e`. Below a power of two the numbers lie twice as dense. -/
def interval (m : Nat) (e : Int) : Interval :=
  let below := if m = twoTo 52 && minExponent < e then 1 else 2
  let scale := if e < 0 then 1 else twoTo e.toNat
  { low := (4 * m - below) * scale
    mid := 4 * m * scale
    high := (4 * m + 2) * scale
    den := if e < 0 then 4 * twoTo (-e).toNat else 4
    closed := m % 2 = 0 }

/-- Which of two decimals that are as near to a number is taken. -/
inductive Tie where
  | toEven
  | up
  deriving DecidableEq, Repr

namespace Interval

/-- Whether `d * 10 ^ k` lies in the interval. -/
def holds (i : Interval) (d : Nat) (k : Int) : Bool :=
  let s := if k < 0 then tenTo (-k).toNat else 1
  let x := d * (if k < 0 then 1 else tenTo k.toNat) * i.den
  if i.closed then i.low * s ≤ x && x ≤ i.high * s else i.low * s < x && x < i.high * s

/-- The distance of `d * 10 ^ k` from the number, in a unit that depends on `k` only. -/
def distance (i : Interval) (d : Nat) (k : Int) : Nat :=
  let s := if k < 0 then tenTo (-k).toNat else 1
  let x := d * (if k < 0 then 1 else tenTo k.toNat) * i.den
  if x < i.mid * s then i.mid * s - x else x - i.mid * s

/-- The integer below the number divided by `10 ^ k`. -/
def floorAt (i : Interval) (k : Int) : Nat :=
  if k < 0 then i.mid * tenTo (-k).toNat / i.den else i.mid / (i.den * tenTo k.toNat)

/-- Whether `d + 1` is taken of two decimals in the interval: it is nearer, or as near and the tie goes to it. -/
def prefersNext (i : Interval) (tie : Tie) (d : Nat) (k : Int) : Bool :=
  let this := i.distance d k
  let next := i.distance (d + 1) k
  next < this || (next = this && (tie = .up || d % 2 = 1))

/-- The digits on the grid of `10 ^ k` that lie in the interval, the nearer of two. -/
def digitsAt? (i : Interval) (tie : Tie) (k : Int) : Option Nat :=
  let d := i.floorAt k
  match i.holds d k, i.holds (d + 1) k with
  | true, true => some (if i.prefersNext tie d k then d + 1 else d)
  | true, false => some d
  | false, true => some (d + 1)
  | false, false => none

/-- The number of digits before the point, zero or negative for a number below one. -/
def magnitude (i : Interval) : Int :=
  if i.den ≤ i.mid then (Nat.toDigits 10 (i.mid / i.den)).length
  else 1 - ((List.range 400).find? fun j => i.den ≤ i.mid * tenTo j).getD 0

end Interval

/-- Removes factors of ten from the digits. -/
def stripZeros : Nat → Nat → Int → Nat × Int
  | 0, d, k => (d, k)
  | fuel + 1, d, k => if d ≠ 0 && d % 10 = 0 then stripZeros fuel (d / 10) (k + 1) else (d, k)

/-- Digits and decimal exponent of the shortest form of `m * 2 ^ e`; zero has the digit zero. -/
def shortest (tie : Tie) (m : Nat) (e : Int) : Nat × Int :=
  if m = 0 then (0, 0)
  else
    let i := interval m e
    let p := i.magnitude
    let found := (List.range 17).findSome? fun n =>
      let k := p - (n + 1 : Nat)
      (i.digitsAt? tie k).map fun d => (d, k)
    let (d, k) := found.getD (i.floorAt (p - 17), p - 17)
    stripZeros 20 d k

end SourceAudit.Binary64
