import SourceAudit.Binary64.Reader
import SourceAudit.Document.Basic
import SourceAudit.Toml.Text

/-!
# Numbers and dates in TOML

`readNumber` reads a whole number, a number with a fraction or an exponent, or a date or time. Dates and times are only
checked: nothing reads them, but they can stand for a record.
-/

namespace SourceAudit.Toml

/-! ## Numbers -/

/-- Reads digits with single underscores between them. -/
def readDigits (isDigit : Char → Bool) : List Char → List Char × List Char
  | [] => ([], [])
  | c :: cs =>
    if isDigit c then
      let (more, rest) := match cs with
        | '_' :: d :: ds => if isDigit d then readDigits isDigit (d :: ds) else ([], cs)
        | cs => readDigits isDigit cs
      (c :: more, rest)
    else ([], c :: cs)
termination_by cs => cs.length

/-- A whole number, if it fits in 64 bits with a sign. -/
def intDocument (n : Int) : Except Error Document :=
  if -9223372036854775808 ≤ n && n < 9223372036854775808 then .ok
    (.scalar { int := some n, number := some (.ofInt n) }) else .error .badNumber

/-- Reads a whole number in base 16, 8 or 2 after its leading zero and letter. -/
def readBased (base : Nat) (isDigit : Char → Bool) (cs : List Char) : Except Error (Document × List Char) :=
  match readDigits isDigit cs with
  | ([], _) => .error .badNumber
  | (digits, rest) => do return (← intDocument (Text.digitsValue base digits), rest)

def readFraction : List Char → Option (List Char × List Char)
  | '.' :: cs =>
    match readDigits Char.isDigit cs with
    | ([], _) => none
    | (digits, rest) => some ('.' :: digits, rest)
  | cs => some ([], cs)

def readExponent : List Char → Option (List Char × List Char)
  | c :: cs =>
    if c == 'e' || c == 'E' then
      let (sign, cs) := match cs with
        | '+' :: cs => ([], cs)
        | '-' :: cs => (['-'], cs)
        | cs => ([], cs)
      match readDigits Char.isDigit cs with
      | ([], _) => none
      | (digits, rest) => some ('e' :: sign ++ digits, rest)
    else some ([], c :: cs)
  | [] => some ([], [])

/-- A number with a fraction or an exponent. One that is too large is refused; one that is too small to be written is
not. -/
def floatDocument (text : List Char) : Except Error Document :=
  match Binary64.parse? text with
  | some (.infinite false) | none => .error .badNumber
  | some x => .ok (.scalar { number := some x })

/-- Reads a number in base 10, without its sign. -/
def readDecimal (negative : Bool) (cs : List Char) : Except Error (Document × List Char) := do
  let (digits, cs) := match cs with
    | '0' :: cs => (['0'], cs)
    | cs => readDigits Char.isDigit cs
  if digits.isEmpty then .error .badNumber
  match readFraction cs with
  | none => .error .badNumber
  | some (fraction, afterFraction) =>
    match readExponent afterFraction with
    | none => .error .badNumber
    | some (exponent, rest) =>
      if fraction.isEmpty && exponent.isEmpty then
        let n : Int := Text.digitsValue 10 digits
        return (← intDocument (if negative then -n else n), rest)
      else
        let text := (if negative then ['-'] else []) ++ digits ++ fraction ++ exponent
        return (← floatDocument text, rest)

def readSigned (negative : Bool) (cs : List Char) : Except Error (Document × List Char) :=
  match cs with
  | 'i' :: 'n' :: 'f' :: rest => .ok (.scalar { number := some (.infinite negative) }, rest)
  | 'n' :: 'a' :: 'n' :: rest => .ok (.scalar { number := some .nan }, rest)
  | cs => readDecimal negative cs

/-! ## Dates and times -/

/-- Reads a number of exactly `n` digits. -/
def readFixed (n : Nat) (cs : List Char) : Option (Nat × List Char) :=
  let digits := cs.take n
  if digits.length = n && digits.all Char.isDigit then some (Text.digitsValue 10 digits, cs.drop n) else none

def daysIn (year month : Nat) : Nat :=
  if month = 2 then
    if year % 4 = 0 && (year % 100 ≠ 0 || year % 400 = 0) then 29 else 28
  else if month = 4 || month = 6 || month = 9 || month = 11 then 30
  else 31

/-- Reads a date such as `2024-02-29`. -/
def readDate? (cs : List Char) : Option (Except Error (List Char)) :=
  match readFixed 4 cs with
  | some (year, '-' :: cs) =>
    match readFixed 2 cs with
    | some (month, '-' :: cs) =>
      match readFixed 2 cs with
      | some (day, cs) =>
        if 1 ≤ month && month ≤ 12 && 1 ≤ day && day ≤ daysIn year month then some (.ok cs) else some (.error .badDate)
      | none => some (.error .badDate)
    | _ => some (.error .badDate)
  | _ => none

/-- Reads a time such as `07:32:00.5`. -/
def readTime? (cs : List Char) : Option (Except Error (List Char)) :=
  match readFixed 2 cs with
  | some (hour, ':' :: cs) =>
    match readFixed 2 cs with
    | some (minute, ':' :: cs) =>
      match readFixed 2 cs with
      | some (second, cs) =>
        if hour ≤ 23 && minute ≤ 59 && second ≤ 60 then
          match cs with
          | '.' :: rest =>
            let digits := rest.takeWhile Char.isDigit
            if digits.isEmpty then some (.error .badDate) else some (.ok (rest.drop digits.length))
          | _ => some (.ok cs)
        else some (.error .badDate)
      | none => some (.error .badDate)
    | _ => some (.error .badDate)
  | _ => none

/-- Reads the distance from universal time, if there is one. -/
def readOffset (cs : List Char) : Except Error (List Char) :=
  match cs with
  | 'Z' :: cs | 'z' :: cs => .ok cs
  | c :: rest =>
    if c == '+' || c == '-' then
      match readFixed 2 rest with
      | some (hour, ':' :: rest) =>
        match readFixed 2 rest with
        | some (minute, rest) => if hour ≤ 23 && minute ≤ 59 then .ok rest else .error .badDate
        | none => .error .badDate
      | _ => .error .badDate
    else .ok cs
  | [] => .ok []

def readDateTime? (cs : List Char) : Option (Except Error (List Char)) :=
  match readDate? cs with
  | some (.ok rest) =>
    match rest with
    | d :: after =>
      if d == 'T' || d == 't' || d == ' ' then
        match readTime? after with
        | some (.ok afterTime) => some (readOffset afterTime)
        | some (.error e) => some (.error e)
        | none => some (.ok rest)
      else some (.ok rest)
    | [] => some (.ok rest)
  | some (.error e) => some (.error e)
  | none => readTime? cs

def readNumber (cs : List Char) : Except Error (Document × List Char) :=
  match readDateTime? cs with
  | some result => do return (.scalar { isRecord := true }, ← result)
  | none =>
    match cs with
    | '+' :: cs => readSigned false cs
    | '-' :: cs => readSigned true cs
    | '0' :: 'x' :: cs => readBased 16 (fun c => (Text.hexValue? c).isSome) cs
    | '0' :: 'o' :: cs => readBased 8 (fun c => '0' ≤ c && c ≤ '7') cs
    | '0' :: 'b' :: cs => readBased 2 (fun c => c == '0' || c == '1') cs
    | cs => readSigned false cs

end SourceAudit.Toml
