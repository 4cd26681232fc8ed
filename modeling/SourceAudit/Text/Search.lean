import SourceAudit.Text.Bytes

/-!
# Searching for a text inside another

`find? needle cs` is the byte offset of the first occurrence of `needle`, `contains needle cs` says whether there is
one, and `cutAt? needle cs` splits the text around it.
-/

namespace SourceAudit.Text

/-- Byte offset of the first occurrence of `needle`. -/
def find? (needle : List Char) : List Char → Option Nat
  | [] => if needle.isEmpty then some 0 else none
  | c :: cs =>
    if needle.isPrefixOf (c :: cs) then some 0 else (find? needle cs).map (c.utf8Size + ·)

/-- Whether `needle` occurs. -/
def contains (needle cs : List Char) : Bool := (find? needle cs).isSome

/-- The text before and the text after the first occurrence of `needle`. -/
def cutAt? (needle : List Char) : List Char → Option (List Char × List Char)
  | [] => if needle.isEmpty then some ([], []) else none
  | c :: cs =>
    if needle.isPrefixOf (c :: cs) then some ([], (c :: cs).drop needle.length)
    else (cutAt? needle cs).map fun (before, after) => (c :: before, after)

/-- Removes every repetition of `lead` at the start; an empty `lead` removes nothing. -/
def dropRepeated (lead : List Char) (cs : List Char) : List Char :=
  go cs.length cs
where
  /-- Each round removes one repetition, so the length of the text bounds the rounds. -/
  go : Nat → List Char → List Char
    | 0, cs => cs
    | n + 1, cs => if lead.isPrefixOf cs && !lead.isEmpty then go n (cs.drop lead.length) else cs

/-- The maximal runs of characters that satisfy `p`, in order. -/
def runs (p : Char → Bool) : List Char → List (List Char)
  | [] => []
  | c :: cs =>
    if p c then
      match cs with
      | d :: _ =>
        if p d then
          match runs p cs with
          | [] => [[c]]
          | r :: rs => (c :: r) :: rs
        else [c] :: runs p cs
      | [] => [[c]]
    else runs p cs

end SourceAudit.Text
