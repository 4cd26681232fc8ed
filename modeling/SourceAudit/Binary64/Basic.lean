/-!
# Double-precision numbers

A `Binary64` is a signed multiple of a power of two with at most 53 significant bits, an infinity, or not a number.
All arithmetic is exact arithmetic on integers followed by one rounding.

`ofRatio` : the nearest number to a quotient, a tie going to the even mantissa.
`le`, `lt` : the order; nothing compares with `nan`.
`sub` : the rounded difference.
`clamp` : the nearest number between two bounds; `nan` stays.
-/

namespace SourceAudit

/-- A double-precision number. A finite one has the value `mantissa * 2 ^ exponent`, with its sign. -/
inductive Binary64 where
  | nan
  | infinite (negative : Bool)
  | finite (negative : Bool) (mantissa : Nat) (exponent : Int)
  deriving DecidableEq, Repr, Inhabited

namespace Binary64

/-- The exponent of the smallest positive number. -/
def minExponent : Int := -1074

/-- The largest exponent of a finite number. -/
def maxExponent : Int := 971

def twoTo (n : Nat) : Nat := Nat.pow 2 n

def tenTo (n : Nat) : Nat := Nat.pow 10 n

def zero (negative : Bool) : Binary64 := .finite negative 0 minExponent

/-! ## Rounding -/

/-- The quotient `num / (den * 2 ^ e)` rounded to an integer, a half going to the even neighbour. -/
def scaledQuotient (num den : Nat) (e : Int) : Nat :=
  let n := if e < 0 then num <<< (-e).toNat else num
  let d := if e < 0 then den else den <<< e.toNat
  let q := n / d
  let r := n % d
  if 2 * r < d then q
  else if d < 2 * r then q + 1
  else if q % 2 = 0 then q else q + 1

/-- The exponent at which `num / den` has 53 bits before the point, or the smallest exponent. -/
def exponentFor (num den : Nat) : Int :=
  let e := (Nat.log2 num : Int) - (Nat.log2 den : Int) - 53
  let n := if e < 0 then num <<< (-e).toNat else num
  let d := if e < 0 then den else den <<< e.toNat
  max minExponent (if n / d < twoTo 53 then e else e + 1)

/-- The number nearest to `num / den`, with the given sign; a tie goes to the even mantissa. -/
def ofRatio (negative : Bool) (num den : Nat) : Binary64 :=
  if num = 0 then zero negative
  else
    let e := exponentFor num den
    let m := scaledQuotient num den e
    let (m, e) := if m = twoTo 53 then (twoTo 52, e + 1) else (m, e)
    if maxExponent < e then .infinite negative else .finite negative m e

/-- The number nearest to an integer. -/
def ofInt (n : Int) : Binary64 := ofRatio (n < 0) n.natAbs 1

/-- The number nearest to `digits * 10 ^ exponent`. Magnitudes far outside the range are settled by their size. -/
def ofDecimal (negative : Bool) (digits : Nat) (exponent : Int) : Binary64 :=
  if digits = 0 then zero negative
  else
    let size : Int := (Nat.toDigits 10 digits).length + exponent
    if 310 < size then .infinite negative
    else if size < -330 then zero negative
    else if exponent < 0 then ofRatio negative digits (tenTo (-exponent).toNat)
    else ofRatio negative (digits * tenTo exponent.toNat) 1

/-! ## Order -/

/-- A finite number as a multiple of the smallest positive one. -/
def units (negative : Bool) (mantissa : Nat) (exponent : Int) : Int :=
  let n : Int := mantissa <<< (exponent - minExponent).toNat
  if negative then -n else n

def lt : Binary64 → Binary64 → Bool
  | .nan, _ => false
  | _, .nan => false
  | .infinite s, .infinite t => s && !t
  | .infinite s, .finite .. => s
  | .finite .., .infinite t => !t
  | .finite s m e, .finite t n f => units s m e < units t n f

def le : Binary64 → Binary64 → Bool
  | .nan, _ => false
  | _, .nan => false
  | .infinite s, .infinite t => s || !t
  | .infinite s, .finite .. => s
  | .finite .., .infinite t => !t
  | .finite s m e, .finite t n f => units s m e ≤ units t n f

def one : Binary64 := .finite false (twoTo 52) (-52)

/-- Whether a number lies between zero and one, both included. -/
def inUnitRange (x : Binary64) : Bool := le (zero false) x && le x one

/-- The number itself if it lies between the bounds, else the bound it passes; `nan` stays. -/
def clamp (x low high : Binary64) : Binary64 :=
  if lt x low then low else if lt high x then high else x

def clampUnit (x : Binary64) : Binary64 := x.clamp (zero false) one

/-! ## Difference -/

/-- The difference, rounded once. A difference of equal numbers is positive zero. -/
def sub : Binary64 → Binary64 → Binary64
  | .nan, _ => .nan
  | _, .nan => .nan
  | .infinite s, .infinite t => if s = t then .nan else .infinite s
  | .infinite s, .finite .. => .infinite s
  | .finite .., .infinite t => .infinite (!t)
  | .finite s m e, .finite t n f =>
    let d := units s m e - units t n f
    if d = 0 then zero (m = 0 && s && !t)
    else ofRatio (d < 0) d.natAbs (twoTo minExponent.natAbs)

end Binary64

end SourceAudit
