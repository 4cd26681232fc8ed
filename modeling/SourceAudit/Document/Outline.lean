import SourceAudit.Document.Basic

/-!
# Outlines of documents

An `Outline` says which parts of a document are read: where there is a value, a list or a record, and which fields of a
record count. A format whose documents can be larger than their text, or even endless, is only read along an outline.
-/

namespace SourceAudit.Document

mutual

/-- What is read of a document. -/
inductive Outline where
  | value
  | list (item : Outline)
  | record (fields : Outline.Fields)

inductive Outline.Fields where
  | nil
  | cons (name : String) (o : Outline) (rest : Outline.Fields)

end

namespace Outline

def Fields.ofList : List (String × Outline) → Fields
  | [] => .nil
  | (name, o) :: rest => .cons name o (ofList rest)

def values (names : List String) : List (String × Outline) := names.map fun name => (name, .value)

end Outline

end SourceAudit.Document
