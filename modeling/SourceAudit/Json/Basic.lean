import SourceAudit.Binary64.Basic
import SourceAudit.SortedMap

/-!
# JSON values

`Json` is the type of the values that reports and findings carry. An object keeps its fields in the order in which they
are written; `Json.ofMap` lists them in key order.
-/

namespace SourceAudit

inductive Json where
  | null
  | bool (value : Bool)
  | int (value : Int)
  | number (value : Binary64)
  | string (value : String)
  | array (items : List Json)
  | object (fields : List (String × Json))
  deriving Repr, Inhabited

namespace Json

def nat (n : Nat) : Json := .int n

def strings (ss : List String) : Json := .array (ss.map .string)

/-- A value, or `null` if there is none. -/
def ofOption {α : Type} (f : α → Json) : Option α → Json
  | some a => f a
  | none => .null

def ofMap {α : Type} (f : α → Json) (m : SortedMap α) : Json :=
  .object (m.entries.map fun (k, v) => (k, f v))

/-- A field that is left out if there is no value. -/
def optionalField {α : Type} (name : String) (f : α → Json) : Option α → List (String × Json)
  | some a => [(name, f a)]
  | none => []

end Json

end SourceAudit
