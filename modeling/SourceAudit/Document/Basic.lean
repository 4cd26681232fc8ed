import SourceAudit.Binary64.Basic

/-!
# Structured documents

A `Document` is what a rule file or a configuration file says, whatever its format: scalars, lists and tables. A format
decides what its scalars can be read as, so a `Scalar` holds every reading that it allows.

`Document.readString`, `Document.readNumber`, `Document.readList` and so on : readings of a document.
`Document.readFields` : the fields of a record, with names that mean the same brought together.
-/

namespace SourceAudit

/-- Whether something stands for no value. -/
inductive Nullity where
  | value
  | null
  /-- It says that it stands for no value, but has one. -/
  | contradictory
  deriving DecidableEq, Repr

/-- A single value, by what it can be read as. -/
structure Scalar where
  string : Option String := none
  /-- The name of one of a fixed set of values. -/
  name : Option String := none
  bool : Option Bool := none
  int : Option Int := none
  number : Option Binary64 := none
  nullity : Nullity := .value
  /-- Nothing is written; it stands for an empty list and an empty table too. -/
  isBlank : Bool := false
  /-- It can stand for a record, of which it has no field. -/
  isRecord : Bool := false
  deriving Repr

/-- Whether a list can stand for a record, with the values of the fields in order. -/
inductive Positional where
  | never
  /-- It can, and further items do not count. -/
  | open
  /-- It can, if there are no further items. -/
  | exact
  deriving DecidableEq, Inhabited, Repr

/-- Whether a table with one entry can stand for the name of that entry. -/
inductive Selective where
  | never
  /-- It can, if the value of the entry is an empty list or table. -/
  | byEmpty
  /-- It can, if the value of the entry is null. -/
  | byNull
  deriving DecidableEq, Inhabited, Repr

inductive Document where
  | scalar (s : Scalar)
  | list (positional : Positional) (items : List Document)
  /-- A table, in the order of the document; a key may be there twice. -/
  | table (selective : Selective) (entries : List (String × Document))
  deriving Repr, Inhabited

namespace Document

/-- Why a document does not say what was expected. -/
inductive DecodeError where
  | expected (what : String)
  | missing (field : String)
  | repeated (field : String)
  | unknownName (name : String)
  deriving Repr

namespace DecodeError

def message : DecodeError → String
  | expected what => s!"invalid type: expected {what}"
  | missing field => s!"missing field `{field}`"
  | repeated field => s!"duplicate field `{field}`"
  | unknownName name => s!"unknown variant `{name}`"

end DecodeError

abbrev Reader (α : Type) := Document → Except DecodeError α

/-! ## Scalars and lists -/

def readString : Reader String
  | .scalar { string := some s, .. } => .ok s
  | _ => .error (.expected "a string")

def readBool : Reader Bool
  | .scalar { bool := some b, .. } => .ok b
  | _ => .error (.expected "a boolean")

def readNumber : Reader Binary64
  | .scalar { number := some x, .. } => .ok x
  | _ => .error (.expected "a number")

/-- A whole number that is not negative and fits in a machine word. -/
def readNatural : Reader Nat
  | .scalar { int := some n, .. } =>
    if 0 ≤ n && n < 18446744073709551616 then .ok n.toNat else .error (.expected "a non-negative integer")
  | _ => .error (.expected "a non-negative integer")

/-- The name of one of a fixed set of values. -/
def readName : Reader String
  | .scalar { name := some name, .. } => .ok name
  | .table .byEmpty [(name, .list _ [])] | .table .byEmpty [(name, .table _ [])] => .ok name
  | .table .byNull [(name, .scalar { nullity := .null, .. })] => .ok name
  | _ => .error (.expected "a name")

def readNamed {α : Type} (ofName? : String → Option α) : Reader α := fun d => do
  let name ← readName d
  match ofName? name with
  | some a => .ok a
  | none => .error (.unknownName name)

/-- A value that may be left out. -/
def readNullable {α : Type} (read : Reader α) : Reader (Option α)
  | .scalar s =>
    match s.nullity with
    | .null => .ok none
    | .contradictory => .error (.expected "null")
    | .value => do return some (← read (.scalar s))
  | d => do return some (← read d)

def readList {α : Type} (read : Reader α) : Reader (List α)
  | .list _ items => items.mapM read
  | .scalar { isBlank := true, .. } => .ok []
  | _ => .error (.expected "a sequence")

/-- A table with free keys; of a repeated key the last value counts. -/
def readEntries {α : Type} (read : Reader α) : Reader (List (String × α))
  | .table _ es => es.mapM fun (key, d) => do return (key, ← read d)
  | .scalar { isBlank := true, .. } => .ok []
  | _ => .error (.expected "a map")

/-! ## Records -/

abbrev Record := List (String × Document)

/-- The value of a field, which may go by several names but be there only once. -/
def fieldOf? (es : List (String × Document)) (names : List String) : Except DecodeError (Option Document) :=
  match es.filter fun e => names.contains e.1 with
  | [] => .ok none
  | [(_, d)] => .ok (some d)
  | _ => .error (.repeated (names.headD ""))

/-- The fields of a record, each under the first of its names; other keys do not count. -/
def readFields (names : List (List String)) : Reader Record
  | .table _ es => do
    let found ← names.mapM fun ns => do return (← fieldOf? es ns).map fun d => (ns.headD "", d)
    return found.filterMap id
  | .list positional items =>
    if positional = .never || (positional = .exact && names.length < items.length) then .error (.expected "a map")
    else .ok ((names.map (·.headD "")).zip items)
  | .scalar s => if s.isBlank || s.isRecord then .ok [] else .error (.expected "a map")

namespace Record

def required {α : Type} (r : Record) (name : String) (read : Reader α) : Except DecodeError α :=
  match r.lookup name with
  | some d => read d
  | none => .error (.missing name)

def withDefault {α : Type} (r : Record) (name : String) (read : Reader α) (default : α) : Except DecodeError α :=
  match r.lookup name with
  | some d => read d
  | none => .ok default

/-- A field that may be left out. -/
def optional {α : Type} (r : Record) (name : String) (read : Reader α) : Except DecodeError (Option α) :=
  r.withDefault name (readNullable read) none

end Record

end Document

end SourceAudit
