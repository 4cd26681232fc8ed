/-!
# ASCII letters and digits

`asciiLower` and `asciiUpper` map the 26 basic letters and leave every other character as it is. `digitsValue` is the
value of a run of digits in a base up to 16.
-/

namespace SourceAudit.Text

/-- Lower case of the basic letters. -/
def asciiLower (cs : List Char) : List Char := cs.map Char.toLower

/-- Upper case of the basic letters. -/
def asciiUpper (cs : List Char) : List Char := cs.map Char.toUpper

/-- Equality up to the case of the basic letters. -/
def sameIgnoringAsciiCase (a b : String) : Bool := asciiLower a.toList == asciiLower b.toList

/-- A string with its basic letters in lower case. -/
def asciiLowered (s : String) : String := String.ofList (asciiLower s.toList)

/-- The value of a digit, up to base 16. -/
def hexValue? (c : Char) : Option Nat :=
  if '0' ≤ c && c ≤ '9' then some (c.toNat - '0'.toNat)
  else if 'a' ≤ c && c ≤ 'f' then some (c.toNat - 'a'.toNat + 10)
  else if 'A' ≤ c && c ≤ 'F' then some (c.toNat - 'A'.toNat + 10)
  else none

def digitsValue (base : Nat) (digits : List Char) : Nat :=
  digits.foldl (fun n c => base * n + (hexValue? c).getD 0) 0

end SourceAudit.Text
