import SourceAudit.Toml.Number

/-!
# Dates in the strings of TOML

A table whose first key is `dateKey` stands for a date, which is the string under that key. Such a string is read a
little more freely than a date of its own: the last hour is 24, and the distance from universal time is at most a day.

`isDateText` : whether a text is a date, a time, or both.
`standsForDate` : whether the entries of a table stand for a date.
`hasFaultyDate` : whether a document has a table that stands for a date, but not for one that can be read.
-/

namespace SourceAudit.Toml

def timeText? (cs : List Char) : Option (List Char) :=
  match readFixed 2 cs with
  | some (hour, ':' :: cs) =>
    match readFixed 2 cs with
    | some (minute, ':' :: cs) =>
      match readFixed 2 cs with
      | some (second, cs) =>
        if 24 < hour || 59 < minute || 60 < second then none
        else match cs with
          | '.' :: rest =>
            let digits := rest.takeWhile Char.isDigit
            if digits.isEmpty then none else some (rest.drop digits.length)
          | _ => some cs
      | none => none
    | _ => none
  | _ => none

/-- Whether characters are nothing or a distance from universal time. -/
def isOffsetText : List Char → Bool
  | [] | ['Z'] | ['z'] => true
  | sign :: cs =>
    (sign == '+' || sign == '-') &&
      match readFixed 2 cs with
      | some (hours, ':' :: cs) =>
        match readFixed 2 cs with
        | some (minutes, []) => hours * 60 + minutes ≤ 24 * 60
        | _ => false
      | _ => false

/-- Whether a text is a date, a time, or both, and then perhaps with the distance from universal time. -/
def isDateText (text : String) : Bool :=
  match text.toList with
  | a :: b :: ':' :: cs => (timeText? (a :: b :: ':' :: cs)).any List.isEmpty
  | cs =>
    match readDate? cs with
    | some (.ok []) => true
    | some (.ok (d :: cs)) => (d == 'T' || d == 't' || d == ' ') && (timeText? cs).any isOffsetText
    | _ => false

def dateKey : String := "$__toml_private_datetime"

def standsForDate : List (String × Document) → Bool
  | [] => false
  | (key, _) :: _ => key == dateKey

def isDate : Document → Bool
  | .scalar s => s.string.any isDateText
  | _ => false

mutual

/-- Whether a document has a table that stands for a date, but not for one that can be read. -/
def hasFaultyDate : Document → Bool
  | .scalar _ => false
  | .list _ items => anyHasFaultyDate items
  | .table _ [] => false
  | .table _ ((key, d) :: rest) => if key = dateKey then !isDate d else hasFaultyDate d || entriesHaveFaultyDate rest

def anyHasFaultyDate : List Document → Bool
  | [] => false
  | d :: rest => hasFaultyDate d || anyHasFaultyDate rest

def entriesHaveFaultyDate : List (String × Document) → Bool
  | [] => false
  | (_, d) :: rest => hasFaultyDate d || entriesHaveFaultyDate rest

end

end SourceAudit.Toml
