import SourceAudit.Document.Basic
import SourceAudit.Toml.Text

/-!
# Tables of TOML while they are read

A table may be made by a header, by a dotted key, or only as part of the path to another table. What may be added to it
later depends on that: a header may still follow a table that was only part of a path, and dotted keys may add to tables
made by dotted keys.
-/

namespace SourceAudit.Toml

/-- An entry of a table. -/
inductive Item where
  /-- A finished value. -/
  | value (d : Document)
  /-- A table. It is `implicit` while no header has named it, and `dotted` if a dotted key made it. -/
  | table (implicit dotted : Bool) (entries : List (String × Item))
  /-- The tables made by headers in double brackets, newest first. -/
  | tables (all : List (List (String × Item)))

/-- The entries of a table, newest first. -/
abbrev Entries := List (String × Item)

mutual

def Item.toDocument : Item → Document
  | .value d => d
  | .table _ _ entries => .table .byEmpty (entriesDocument entries)
  | .tables all => .list .open (tablesDocument all).reverse

def entriesDocument : List (String × Item) → List (String × Document)
  | [] => []
  | (key, item) :: es => entriesDocument es ++ [(key, item.toDocument)]

def tablesDocument : List (List (String × Item)) → List Document
  | [] => []
  | es :: rest => .table .byEmpty (entriesDocument es) :: tablesDocument rest

end

def replaceEntry (key : String) (item : Item) : Entries → Entries
  | [] => [(key, item)]
  | (k, i) :: es => if k = key then (key, item) :: es else (k, i) :: replaceEntry key item es

/-- Changes the table at the end of a path; missing tables are made on the way. The tables on the way are made by
dotted keys if `dotted`; then none of them may be named by a header. The change gets to know whether the table is
itself dotted. -/
def atPath (dotted : Bool) (change : Bool → Entries → Except Error Entries) (self : Bool) :
    List String → Entries → Except Error Entries
  | [], es => change self es
  | key :: path, es =>
    match es.lookup key with
    | none => do return (key, .table true dotted (← atPath dotted change dotted path [])) :: es
    | some (.value _) => .error (.notATable key)
    | some (.tables (last :: others)) => do
      return replaceEntry key (.tables ((← atPath dotted change false path last) :: others)) es
    | some (.tables []) => .error (.notATable key)
    | some (.table implicit isDotted inner) =>
      if dotted && !implicit then .error (.duplicateKey key)
      else do return replaceEntry key (.table implicit isDotted (← atPath dotted change isDotted path inner)) es

/-- Adds a value at a dotted key to a table. -/
def addValue (path : List String) (key : String) (d : Document) : Entries → Except Error Entries :=
  atPath true (fun isDotted es =>
    if isDotted == path.isEmpty then .error (.duplicateKey key)
    else if (es.lookup key).isSome then .error (.duplicateKey key)
    else .ok ((key, .value d) :: es)) false path

/-- Names a table by a header. A table that was only part of a path before is then the newest of its table. -/
def openTable (path : List String) (key : String) : Entries → Except Error Entries :=
  atPath false (fun _ es =>
    match es.lookup key with
    | none => .ok ((key, .table false false []) :: es)
    | some (.table true false inner) => .ok ((key, .table false false inner) :: es.filter (·.1 ≠ key))
    | some _ => .error (.duplicateKey key)) false path

/-- Starts the next of several tables by a header in double brackets. -/
def openArrayTable (path : List String) (key : String) : Entries → Except Error Entries :=
  atPath false (fun _ es =>
    match es.lookup key with
    | none => .ok ((key, .tables [[]]) :: es)
    | some (.tables all) => .ok (replaceEntry key (.tables ([] :: all)) es)
    | some _ => .error (.duplicateKey key)) false path

/-- Adds a value at a dotted key to the table that was named last. -/
def addUnder (header : List String) (path : List String) (key : String) (d : Document) : Entries →
    Except Error Entries :=
  atPath false (fun _ es => addValue path key d es) false header

end SourceAudit.Toml
