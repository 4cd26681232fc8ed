import SourceAudit.Binary64.Basic
import SourceAudit.Text.Ascii

/-!
# Reading a number

`Binary64.parse?` reads the decimal form: an optional sign, digits with an optional point and at least one digit, an
optional exponent; or, in any case, `inf`, `infinity` or `nan`. The result is the nearest number.
-/

namespace SourceAudit.Binary64

/-- Reads the exponent part: nothing, or a mark, an optional sign and at least one digit. -/
def readExponent? : List Char → Option Int
  | [] => some 0
  | mark :: cs =>
    if mark = 'e' || mark = 'E' then
      let (negative, ds) : Bool × List Char :=
        match cs with
        | '-' :: ds => (true, ds)
        | '+' :: ds => (false, ds)
        | ds => (false, ds)
      if ds.isEmpty || !ds.all Char.isDigit then none
      else some (if negative then -(Text.digitsValue 10 ds : Int) else Text.digitsValue 10 ds)
    else none

def readMagnitude? (negative : Bool) (cs : List Char) : Option Binary64 :=
  match String.ofList (cs.map Char.toLower) with
  | "inf" | "infinity" => some (.infinite negative)
  | "nan" => some .nan
  | _ =>
    let whole := cs.takeWhile Char.isDigit
    let rest := cs.dropWhile Char.isDigit
    let (fraction, rest) : List Char × List Char :=
      match rest with
      | '.' :: more => (more.takeWhile Char.isDigit, more.dropWhile Char.isDigit)
      | _ => ([], rest)
    if whole.isEmpty && fraction.isEmpty then none
    else (readExponent? rest).map fun e =>
      ofDecimal negative (Text.digitsValue 10 (whole ++ fraction)) (e - fraction.length)

def parse? : List Char → Option Binary64
  | '-' :: cs => readMagnitude? true cs
  | '+' :: cs => readMagnitude? false cs
  | cs => readMagnitude? false cs

end SourceAudit.Binary64
