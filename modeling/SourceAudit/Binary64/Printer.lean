import SourceAudit.Binary64.Shortest

/-!
# Writing a number

`positional` : the shortest digits without an exponent, as messages show numbers; a tie goes up. `jsonText` : the
shortest digits with a point, and an exponent for very large or small magnitudes; a tie goes to the even digit. Only
finite numbers have this form. `fixed` : a fixed number of decimals, a tie going to the even digit.
-/

namespace SourceAudit.Binary64

def zeros (n : Nat) : String := String.ofList (List.replicate n '0')

def signText (negative : Bool) : String := if negative then "-" else ""

/-- Digits with the point `places` digits from the right. -/
def withPoint (digits : String) (places : Nat) : String :=
  let cs := digits.toList
  String.ofList (cs.take (cs.length - places)) ++ "." ++ String.ofList (cs.drop (cs.length - places))

/-- `d * 10 ^ k` without an exponent. -/
def positionalText (d : Nat) (k : Int) : String :=
  let digits := toString d
  if 0 ≤ k then digits ++ zeros k.toNat
  else
    let places := (-k).toNat
    if places < digits.length then withPoint digits places
    else "0." ++ zeros (places - digits.length) ++ digits

/-- The shortest form without an exponent. -/
def positional : Binary64 → String
  | .nan => "NaN"
  | .infinite s => signText s ++ "inf"
  | .finite s m e =>
    let (d, k) := shortest .up m e
    signText s ++ (if d = 0 then "0" else positionalText d k)

/-- `d * 10 ^ k` with a point, in the range where no exponent is used, else with one. -/
def pointedText (d : Nat) (k : Int) : String :=
  let digits := toString d
  let size : Int := digits.length + k
  if 0 ≤ k && size ≤ 16 then digits ++ zeros k.toNat ++ ".0"
  else if -5 < size && size ≤ 16 then positionalText d k
  else if digits.length = 1 then digits ++ "e" ++ toString (size - 1)
  else withPoint digits (digits.length - 1) ++ "e" ++ toString (size - 1)

/-- The form of a number in a JSON text; there is none for `nan` and the infinities. -/
def jsonText : Binary64 → Option String
  | .nan => none
  | .infinite _ => none
  | .finite s m e =>
    let (d, k) := shortest .toEven m e
    some (signText s ++ (if d = 0 then "0.0" else pointedText d k))

/-- `num / den` rounded to an integer, a half going to the even neighbour. -/
def roundDiv (num den : Nat) : Nat :=
  let q := num / den
  let r := num % den
  if 2 * r < den then q else if den < 2 * r then q + 1 else if q % 2 = 0 then q else q + 1

/-- The form with `places` decimals. -/
def fixed (places : Nat) : Binary64 → String
  | .nan => "NaN"
  | .infinite s => signText s ++ "inf"
  | .finite s m e =>
    let num := m * tenTo places * (if e < 0 then 1 else twoTo e.toNat)
    let d := roundDiv num (if e < 0 then twoTo (-e).toNat else 1)
    let digits := toString d
    let digits := zeros (places + 1 - digits.length) ++ digits
    signText s ++ (if places = 0 then digits else withPoint digits places)

end SourceAudit.Binary64
