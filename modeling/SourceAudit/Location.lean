/-!
# Places in a text

A `Location` is a line and a column, both counted from 1. `Location.precedes` is the order of the text.
-/

namespace SourceAudit

/-- A line and a column, counted from 1; columns count characters. -/
structure Location where
  line : Nat
  column : Nat
  deriving DecidableEq, Repr, Inhabited

namespace Location

/-- Whether a place comes before another. -/
def precedes (a b : Location) : Bool := a.line < b.line || (a.line == b.line && a.column < b.column)

def earlier (a b : Location) : Location := if b.precedes a then b else a

def later (a b : Location) : Location := if b.precedes a then a else b

end Location

end SourceAudit
