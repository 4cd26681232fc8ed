import SourceAudit.LegacyPattern
import SourceAudit.Proofs.Regex.Alphabet
import SourceAudit.Proofs.Regex.Leftmost

/-!
# Mentions of a variable

* `MentionAt v line b` : the text `v` stands on a line behind `b`, as a whole word;
* `startsBehind_mentionShape_iff` : where the expression for mentions starts;
* `mentionColumn?_eq_some_iff` : the column is that of the first mention;
* `isMentionable_of_le`, `not_isMentionable_of_lt` : how long a variable may be.
-/

namespace SourceAudit.LegacyPattern

open Regex
open Text (byteLength Shortest)

variable {v line a b : List Char}

/-- The character may stand in a name, behind its start. -/
def Continues (c : Char) : Prop := isWord c = true ∨ c = '$'

theorem mem_continues {c : Char} : (CharSet.union .word (.single '$')).mem c = true ↔ Continues c := by
  rw [CharSet.mem, CharSet.mem, Bool.or_eq_true, mem_single]
  exact Iff.rfl

theorem mem_nameBreak {c : Char} : nameBreak.mem c = true ↔ ¬Continues c := by
  rw [nameBreak, CharSet.mem, Bool.not_eq_true', ← Bool.not_eq_true, mem_continues]

/-- The text stands on the line behind `b`, and no character of a name is next to it. -/
def MentionAt (v line b : List Char) : Prop :=
  ∃ rest, line = b ++ (v ++ rest) ∧ (∀ c, b.getLast? = some c → ¬Continues c) ∧ ∀ c, rest.head? = some c → ¬Continues c

theorem MentionAt.isPrefix (h : MentionAt v line b) : b <+: line := by
  obtain ⟨rest, rfl, -⟩ := h
  exact List.prefix_append b _

/-! ## Where mentions start -/

/-- Behind its first part, the expression takes the text up to where no name goes on. -/
theorem exists_takes_mention_iff {p : Cursor} :
    (∃ q, Takes (seq (literal v) (alt (set nameBreak) (look .endText))) p q) ↔
      ∃ rest, p.right = v ++ rest ∧ ∀ c, rest.head? = some c → ¬Continues c := by
  constructor
  · rintro ⟨q, m, hm, hq⟩
    obtain ⟨rest, hp, rfl⟩ := takes_literal_iff.mp hm
    refine ⟨rest, hp, fun c hc => ?_⟩
    rcases hq with ⟨d, rest', hd, hbreak, -⟩ | hq
    · rw [show rest = d :: rest' from hd] at hc
      cases hc
      exact mem_nameBreak.mp hbreak
    · rw [show rest = [] from takes_endText hq] at hc
      cases hc
  · rintro ⟨rest, hp, hrest⟩
    have hword : Takes (literal v) p ⟨v.reverse ++ p.left, rest, p.slots⟩ := takes_literal_iff.mpr ⟨rest, hp, rfl⟩
    cases rest with
    | nil => exact ⟨_, _, hword, .inr ⟨rfl, rfl⟩⟩
    | cons c rest => exact ⟨_, _, hword, .inl ⟨c, rest, rfl, mem_nameBreak.mpr (hrest c rfl), rfl⟩⟩

theorem startsBehind_mentionShape_iff :
    StartsBehind (mentionShape v) line a ↔ a = [] ∧ MentionAt v line [] ∨ ∃ d, MentionAt v line (a ++ [d]) := by
  constructor
  · rintro ⟨r, q, rfl, m, hm | ⟨d, rest, hd, hbreak, rfl⟩, hq⟩
    · obtain ⟨hleft, rfl⟩ := takes_startText hm
      obtain rfl := List.reverse_eq_nil_iff.mp hleft
      obtain ⟨rest, hp, hrest⟩ := exists_takes_mention_iff.mp ⟨q, hq⟩
      exact .inl ⟨rfl, rest, hp, by simp, hrest⟩
    · obtain ⟨rest', hp, hrest⟩ := exists_takes_mention_iff.mp ⟨q, hq⟩
      refine .inr ⟨d, rest', ?_, fun c hc => ?_, hrest⟩
      · rw [show r = d :: rest from hd, show rest = v ++ rest' from hp, List.append_assoc, List.singleton_append]
      · rw [List.getLast?_concat] at hc
        cases hc
        exact mem_nameBreak.mp hbreak
  · rintro (⟨rfl, rest, rfl, -, hrest⟩ | ⟨d, rest, rfl, hd, hrest⟩)
    · obtain ⟨q, hq⟩ := (exists_takes_mention_iff (p := ⟨[], v ++ rest, []⟩)).mpr ⟨rest, rfl, hrest⟩
      exact ⟨v ++ rest, q, rfl, _, .inl ⟨rfl, rfl⟩, hq⟩
    · obtain ⟨q, hq⟩ := (exists_takes_mention_iff (p := ⟨d :: a.reverse, v ++ rest, []⟩)).mpr ⟨rest, rfl, hrest⟩
      refine ⟨d :: (v ++ rest), q, by rw [List.append_assoc, List.singleton_append], _,
        .inr ⟨d, v ++ rest, rfl, ?_, rfl⟩, hq⟩
      exact mem_nameBreak.mpr (hd d List.getLast?_concat)

/-- What comes before a mention is nothing, or a part behind which the expression starts and one character. -/
theorem MentionAt.startsBehind (h : MentionAt v line b) :
    b = [] ∧ StartsBehind (mentionShape v) line [] ∨ ∃ a d, b = a ++ [d] ∧ StartsBehind (mentionShape v) line a := by
  rcases List.eq_nil_or_concat b with rfl | ⟨a, d, rfl⟩
  · exact .inl ⟨rfl, startsBehind_mentionShape_iff.mpr (.inl ⟨rfl, h⟩)⟩
  · rw [List.concat_eq_append] at h ⊢
    exact .inr ⟨a, d, rfl, startsBehind_mentionShape_iff.mpr (.inr ⟨d, h⟩)⟩

/-! ## The column -/

/-- A variable: characters of a name, of which there is at least one. -/
structure IsVariable (v : List Char) : Prop where
  ne_nil : v ≠ []
  continues : ∀ c ∈ v, Continues c

theorem IsVariable.not_isPrefix (hv : IsVariable v) {d : Char} {rest : List Char} (hd : ¬Continues d) :
    ¬v <+: d :: rest := by
  intro h
  cases v with
  | nil => exact hv.ne_nil rfl
  | cons c v =>
    obtain ⟨rfl, -⟩ := List.cons_prefix_cons.mp h
    exact hd (hv.continues c List.mem_cons_self)

/-- The first occurrence of the text behind the start of the leftmost match is the first mention. -/
theorem exists_mentionColumn? (hv : IsVariable v) (ha : Shortest (StartsBehind (mentionShape v) line) a) :
    ∃ b, mentionColumn? v line = some (b.length + 1) ∧ Shortest (MentionAt v line) b := by
  obtain ⟨m, hm, hstart⟩ := Option.map_eq_some_iff.mp (find?_start_eq_some_iff.mpr ⟨a, ha, rfl⟩)
  obtain ⟨r, rfl⟩ := ha.1.isPrefix
  have hcolumn (c : List Char) (hc : Shortest (fun c => c ++ v <+: r) c) :
      mentionColumn? v (a ++ r) = some ((a ++ c).length + 1) := by
    obtain ⟨rest, hrest⟩ := hc.1
    have hlead : Text.takeBytes? (a ++ r) (byteLength a) = some a := Text.takeBytes?_eq_some_iff.mpr ⟨r, rfl, rfl⟩
    have hfound : Text.takeBytes? r (byteLength c) = some c :=
      Text.takeBytes?_eq_some_iff.mpr ⟨v ++ rest, by rw [← hrest, List.append_assoc], rfl⟩
    simp only [mentionColumn?, hm, Option.bind_some, hstart, hlead, Option.getD_some, List.drop_left,
      Text.find?_eq_some_iff.mpr ⟨c, hc, rfl⟩, Option.map_some, hfound, List.length_append]
  rcases startsBehind_mentionShape_iff.mp ha.1 with ⟨rfl, hmention⟩ | ⟨d, hmention⟩
  · have ⟨rest, hr, _⟩ := hmention
    refine ⟨[], hcolumn [] ⟨⟨rest, hr.symm⟩, fun _ _ => Nat.zero_le _⟩, hmention, fun _ _ => Nat.zero_le _⟩
  · have ⟨rest, hr, hbreak, _⟩ := hmention
    have hd : ¬Continues d := hbreak d List.getLast?_concat
    rw [List.append_assoc, List.append_cancel_left_eq] at hr
    subst hr
    refine ⟨a ++ [d], hcolumn [d] ⟨⟨rest, List.append_assoc ..⟩, fun c hc => ?_⟩, hmention, fun b hb => ?_⟩
    · cases c with
      | nil => exact absurd hc (hv.not_isPrefix hd)
      | cons c cs => exact Nat.le_add_left 1 _
    · rcases hb.startsBehind with ⟨rfl, hempty⟩ | ⟨a', d', rfl, ha'⟩
      · -- a mention at the start of the line would be one at the character `d`
        obtain rfl := List.eq_nil_of_length_eq_zero (Nat.le_zero.mp (ha.2 [] hempty))
        obtain ⟨rest', hrest', -⟩ := hb
        exact absurd ⟨rest', hrest'.symm⟩ (hv.not_isPrefix hd)
      · have := ha.2 a' ha'
        rw [List.length_append, List.length_append]
        exact Nat.succ_le_succ this

theorem mentionColumn?_eq_some_iff (hv : IsVariable v) {column : Nat} :
    mentionColumn? v line = some column ↔ ∃ b, Shortest (MentionAt v line) b ∧ column = b.length + 1 := by
  constructor
  · intro h
    obtain ⟨m, hm, -⟩ := Option.bind_eq_some_iff.mp h
    obtain ⟨a, ha, -⟩ := find?_start_eq_some_iff.mp (Option.map_eq_some_iff.mpr ⟨m, hm, rfl⟩)
    obtain ⟨b, hb, hshort⟩ := exists_mentionColumn? hv ha
    exact ⟨b, hshort, Option.some.inj (h.symm.trans hb)⟩
  · rintro ⟨b, hb, rfl⟩
    obtain ⟨a, ha⟩ : ∃ a, StartsBehind (mentionShape v) line a := by
      rcases hb.1.startsBehind with ⟨-, h⟩ | ⟨a, -, -, h⟩
      · exact ⟨[], h⟩
      · exact ⟨a, h⟩
    obtain ⟨a, ha⟩ := Text.exists_shortest ha
    obtain ⟨b', hb', hshort⟩ := exists_mentionColumn? hv ha
    rw [hb', Shortest.unique (fun _ h => h.isPrefix) hshort hb]

/-! ## How long a variable may be -/

theorem length_utf8Bytes (c : Char) : (utf8Bytes c.toNat).length = c.utf8Size := by
  have hle (n : UInt32) : c.val ≤ n ↔ c.toNat < n.toNat + 1 := by
    rw [UInt32.le_iff_toNat_le, Nat.lt_succ_iff]
    exact Iff.rfl
  simp only [utf8Bytes, Char.utf8Size, hle, UInt32.toNat_ofNatLT, Nat.reduceAdd, apply_ite List.length,
    List.length_cons, List.length_nil]

theorem length_flatMap_utf8Bytes (cs : List Char) : (cs.flatMap fun c => utf8Bytes c.toNat).length = byteLength cs := by
  induction cs with
  | nil => rfl
  | cons c cs ih => rw [List.flatMap_cons, List.length_append, ih, length_utf8Bytes, Text.byteLength_cons]

/-- The dollar sign comes before all word characters. -/
theorem ranges_nameBreak : nameBreak.ranges = CodeRanges.negate (CodeRanges.join ((36, 36) :: wordTable.toList)) := by
  have htable : wordTable.toList = (48, 57) :: wordTable.toList.tail := by decide +kernel
  show CodeRanges.negate (CodeRanges.join (wordTable.toList.merge [(36, 36)] _)) = _
  rw [htable, List.cons_merge_cons, if_neg (by decide), List.merge_right]

theorem bound_nameBreak : (Shape.set nameBreak.ranges).bound = 257728 := by
  rw [ranges_nameBreak]
  decide +kernel

theorem bound_mentionOutline (v : List Char) : (mentionOutline v).bound = 32 * byteLength v + 1546864 := by
  show Shape.boundSum _ + 32 = _
  simp only [Shape.boundSum]
  rw [Shape.bound, Shape.bound, Shape.bound, length_flatMap_utf8Bytes]
  simp only [Shape.boundSum, bound_nameBreak, List.length_cons, List.length_nil]
  rw [Shape.bound, Shape.bound]
  omega

theorem boundSum_mentionOutline (v : List Char) : Shape.boundSum [mentionOutline v] = 32 * byteLength v + 1546864 := by
  rw [Shape.boundSum, Shape.boundSum, bound_mentionOutline, Nat.add_zero]

theorem isMentionable_of_le (h : byteLength v ≤ 250000) : isMentionable v = true := by
  have hbound : Shape.boundSum [mentionOutline v] + 128 * [mentionOutline v].length + 512 ≤ Footprint.limit := by
    rw [boundSum_mentionOutline, Footprint.limit, List.length_singleton]
    omega
  rw [isMentionable, Shape.fits, Shape.fitTogether, decide_eq_true hbound, Bool.true_or]

/-- Each byte of the variable takes a state of its own. -/
theorem not_isMentionable_of_lt (h : 327680 < byteLength v) : isMentionable v = false := by
  have hlimit : Footprint.limit < 32 * (v.flatMap fun c => utf8Bytes c.toNat).length := by
    rw [Footprint.limit, length_flatMap_utf8Bytes]
    omega
  have hgrow (f : Footprint) : f.grow (v.flatMap fun c => utf8Bytes c.toNat).length 0 = none :=
    Footprint.grow_of_lt (by omega)
  have hforward : Shape.footprint .forward [mentionOutline v] = none := by
    simp only [Shape.footprint, Shape.placeWhole, mentionOutline, Shape.place, Shape.placeAll, hgrow,
      Option.bind_eq_bind, Option.bind_none, Option.bind_fun_none]
  have hbound : ¬Shape.boundSum [mentionOutline v] + 128 * [mentionOutline v].length + 512 ≤ Footprint.limit := by
    rw [boundSum_mentionOutline, Footprint.limit, List.length_singleton]
    omega
  rw [isMentionable, Shape.fits, Shape.fitTogether, hforward, decide_eq_false hbound]
  rfl

end SourceAudit.LegacyPattern
