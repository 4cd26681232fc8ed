import Mathlib.Data.List.Forall2
import SourceAudit.Proofs.LegacyPattern.Assignment
import SourceAudit.Proofs.Text.Lines

/-!
# Flows from line to line

* `Reaches source sink lines i j v` : the variable `v` is assigned from `source` on line `i` and mentioned beside
  `sink` on a later line `j`;
* `Reports source sink lines i j v hit` : the hit for these lines, at the first mention;
* `reached_exact`, `flowFrom_exact` : the hits of one assignment, and of all of them;
* `run_flow_exact` : a flow has one hit for each such pair of lines whose variable can be looked for, in order.
-/

namespace SourceAudit.LegacyPattern

open Regex
open Text (byteLength Shortest)

variable {source sink : TextPattern} {i j k : Nat} {v line : List Char} {lines : List (List Char × Nat)}

/-- The line assigns the variable from something that the source matches. -/
def AssignsFrom (source : TextPattern) (line v : List Char) : Prop :=
  ∃ value, assigned? line = some (v, value) ∧ ∃ a, StartsBehind source.regex value a

def MentionedBeside (sink : TextPattern) (line v : List Char) : Prop :=
  (∃ a, StartsBehind sink.regex line a) ∧ ∃ b, MentionAt v line b

/-- Of some numbered lines, line `i` assigns the variable, and the later line `j` mentions it. -/
structure Reaches (source sink : TextPattern) (lines : List (List Char × Nat)) (i j : Nat) (v : List Char) : Prop where
  lt : i < j
  assigned : ∃ line, (line, i) ∈ lines ∧ AssignsFrom source line v
  mentioned : ∃ line, (line, j) ∈ lines ∧ MentionedBeside sink line v

/-- The hit for a line with an assignment and a place that it reaches. -/
def hitAt (source sink : TextPattern) (i : Nat) (v : List Char) (location : Location) : Hit where
  location
  target := some (String.ofList v)
  reason := s!"`{String.ofList v}` assigned from /{source.text}/ on line {i} reaches /{sink.text}/"

/-- The hit for two lines is at the first mention of the variable. -/
def Reports (source sink : TextPattern) (lines : List (List Char × Nat)) (i j : Nat) (v : List Char)
    (hit : Hit) : Prop :=
  ∃ line b, (line, j) ∈ lines ∧ Shortest (MentionAt v line) b ∧ hit = hitAt source sink i v ⟨j, b.length + 1⟩

/-! ## One assignment -/

/-- What a filter keeps of numbered elements, by their numbers. -/
theorem exists_numbers {α β : Type} (f : α × Nat → Option β) (l : List α) (k : Nat) :
    ∃ js : List Nat, js.Pairwise (· < ·) ∧ (∀ j, j ∈ js ↔ ∃ x, (x, j) ∈ l.zipIdx k ∧ (f (x, j)).isSome = true) ∧
      List.Forall₂ (fun j y => ∃ x, (x, j) ∈ l.zipIdx k ∧ f (x, j) = some y) js ((l.zipIdx k).filterMap f) := by
  induction l generalizing k with
  | nil => exact ⟨[], .nil, by simp, .nil⟩
  | cons a l ih =>
    obtain ⟨js, hjs, hmem, hforall⟩ := ih (k + 1)
    have hlater (j : Nat) (hj : j ∈ js) : k < j := by
      obtain ⟨x, hx, -⟩ := (hmem j).mp hj
      exact (List.mk_mem_zipIdx_iff_le_and_getElem?_sub.mp hx).1
    have hcons (j : Nat) : (j = k ∧ (f (a, k)).isSome = true ∨ j ∈ js) ↔
        ∃ x, (x, j) ∈ (a, k) :: l.zipIdx (k + 1) ∧ (f (x, j)).isSome = true := by
      rw [hmem]
      constructor
      · rintro (⟨rfl, ha⟩ | ⟨x, hx, hf⟩)
        · exact ⟨a, List.mem_cons_self, ha⟩
        · exact ⟨x, List.mem_cons_of_mem _ hx, hf⟩
      · rintro ⟨x, hx, hf⟩
        rcases List.mem_cons.mp hx with heq | hx
        · cases heq
          exact .inl ⟨rfl, hf⟩
        · exact .inr ⟨x, hx, hf⟩
    have hrest : List.Forall₂ (fun j y => ∃ x, (x, j) ∈ (a, k) :: l.zipIdx (k + 1) ∧ f (x, j) = some y) js
        ((l.zipIdx (k + 1)).filterMap f) := by
      refine hforall.imp fun j y h => ?_
      obtain ⟨x, hx, hy⟩ := h
      exact ⟨x, List.mem_cons_of_mem _ hx, hy⟩
    rw [List.zipIdx_cons, List.filterMap_cons]
    cases hf : f (a, k) with
    | none =>
      refine ⟨js, hjs, fun j => ?_, hrest⟩
      rw [← hcons, hf]
      simp
    | some y =>
      refine ⟨k :: js, List.pairwise_cons.mpr ⟨hlater, hjs⟩, fun j => ?_, .cons ⟨a, List.mem_cons_self, hf⟩ hrest⟩
      rw [← hcons, hf]
      simp

/-- The hit of an assignment on a later line. -/
def hitOn? (source sink : TextPattern) (i : Nat) (v : List Char) (x : List Char × Nat) : Option Hit :=
  if sink.regex.isMatch x.1 then (mentionColumn? v x.1).map fun column => hitAt source sink i v ⟨x.2, column⟩ else none

theorem reached_eq (later : List (List Char)) :
    reached source sink i v later = (later.zipIdx (i + 1)).filterMap (hitOn? source sink i v) := rfl

theorem hitOn?_eq_some_iff (hv : IsVariable v) {hit : Hit} : hitOn? source sink i v (line, j) = some hit ↔
    MentionedBeside sink line v ∧ ∃ b, Shortest (MentionAt v line) b ∧
    hit = hitAt source sink i v ⟨j, b.length + 1⟩ := by
  rw [hitOn?, MentionedBeside, ← isMatch_iff]
  constructor
  · intro h
    split at h
    · rename_i hsink
      obtain ⟨column, hcolumn, rfl⟩ := Option.map_eq_some_iff.mp h
      obtain ⟨b, hb, rfl⟩ := (mentionColumn?_eq_some_iff hv).mp hcolumn
      exact ⟨⟨hsink, b, hb.1⟩, b, hb, rfl⟩
    · cases h
  · rintro ⟨⟨hsink, -⟩, b, hb, rfl⟩
    rw [if_pos hsink, (mentionColumn?_eq_some_iff hv).mpr ⟨b, hb, rfl⟩]
    rfl

theorem hitOn?_isSome_iff (hv : IsVariable v) :
    (hitOn? source sink i v (line, j)).isSome = true ↔ MentionedBeside sink line v := by
  rw [Option.isSome_iff_exists]
  constructor
  · rintro ⟨hit, h⟩
    exact ((hitOn?_eq_some_iff hv).mp h).1
  · intro h
    obtain ⟨-, b, hb⟩ := id h
    obtain ⟨b, hb⟩ := Text.exists_shortest hb
    exact ⟨_, (hitOn?_eq_some_iff hv).mpr ⟨h, b, hb, rfl⟩⟩

theorem reached_exact (source sink : TextPattern) (hv : IsVariable v) (i : Nat) (later : List (List Char)) :
    ∃ js : List Nat, js.Pairwise (· < ·) ∧
      (∀ j, j ∈ js ↔ ∃ line, (line, j) ∈ later.zipIdx (i + 1) ∧ MentionedBeside sink line v) ∧
      List.Forall₂ (fun j hit => (∃ line, (line, j) ∈ later.zipIdx (i + 1) ∧ MentionedBeside sink line v) ∧
        Reports source sink (later.zipIdx (i + 1)) i j v hit) js (reached source sink i v later) := by
  rw [reached_eq]
  obtain ⟨js, hjs, hmem, hforall⟩ := exists_numbers (hitOn? source sink i v) later (i + 1)
  refine ⟨js, hjs, fun j => ?_, hforall.imp fun j hit h => ?_⟩
  · rw [hmem]
    simp only [hitOn?_isSome_iff hv]
  · obtain ⟨line, hline, hhit⟩ := h
    obtain ⟨hmentioned, b, hb, heq⟩ := (hitOn?_eq_some_iff hv).mp hhit
    exact ⟨⟨line, hline, hmentioned⟩, line, b, hline, hb, heq⟩

/-! ## All assignments -/

/-- Two lines come before two others: the first one does, or it is the same and the second one does. -/
def Precedes (x y : Nat × Nat) : Prop := x.1 < y.1 ∨ x.1 = y.1 ∧ x.2 < y.2

/-- The line assigns the variable, and line `j` of some later lines mentions it. -/
def LeadsTo (source sink : TextPattern) (line : List Char) (later : List (List Char × Nat)) (j : Nat)
    (v : List Char) : Prop :=
  AssignsFrom source line v ∧ ∃ l, (l, j) ∈ later ∧ MentionedBeside sink l v

theorem reaches_cons_iff {lines : List (List Char)} :
    Reaches source sink ((line :: lines).zipIdx k) i j v ↔
      (i = k ∧ LeadsTo source sink line (lines.zipIdx (k + 1)) j v) ∨
      Reaches source sink (lines.zipIdx (k + 1)) i j v := by
  have hlater {l : List Char} {n : Nat} (h : (l, n) ∈ lines.zipIdx (k + 1)) : k < n :=
    (List.mk_mem_zipIdx_iff_le_and_getElem?_sub.mp h).1
  constructor
  · rintro ⟨hlt, ⟨l, hl, hassigned⟩, l', hl', hmentioned⟩
    rw [List.zipIdx_cons, List.mem_cons] at hl hl'
    rcases hl with heq | hl
    · cases heq
      rcases hl' with heq | hl'
      · cases heq
        exact absurd hlt (Nat.lt_irrefl i)
      · exact .inl ⟨rfl, hassigned, l', hl', hmentioned⟩
    · rcases hl' with heq | hl'
      · cases heq
        exact absurd (hlater hl) (Nat.lt_asymm hlt)
      · exact .inr ⟨hlt, ⟨l, hl, hassigned⟩, l', hl', hmentioned⟩
  · rw [List.zipIdx_cons]
    rintro (⟨rfl, hassigned, l', hl', hmentioned⟩ | ⟨hlt, ⟨l, hl, hassigned⟩, l', hl', hmentioned⟩)
    · exact ⟨hlater hl', ⟨line, List.mem_cons_self, hassigned⟩, l', List.mem_cons_of_mem _ hl', hmentioned⟩
    · exact ⟨hlt, ⟨l, List.mem_cons_of_mem _ hl, hassigned⟩, l', List.mem_cons_of_mem _ hl', hmentioned⟩

theorem Reports.mono {lines' : List (List Char × Nat)} {hit : Hit} (h : Reports source sink lines i j v hit)
    (hlines : ∀ x ∈ lines, x ∈ lines') : Reports source sink lines' i j v hit := by
  obtain ⟨line, b, hline, hb, heq⟩ := h
  exact ⟨line, b, hlines _ hline, hb, heq⟩

/-- The hits for one line come before those for the later lines. -/
theorem flowFrom_cons (source sink : TextPattern) (k : Nat) (line : List Char) (lines : List (List Char)) :
    ∃ (js : List Nat) (hits : List Hit),
      flowFrom source sink k (line :: lines) = hits ++ flowFrom source sink (k + 1) lines ∧ js.Pairwise (· < ·) ∧
      (∀ j, j ∈ js ↔ ∃ v, LeadsTo source sink line (lines.zipIdx (k + 1)) j v ∧ isMentionable v = true) ∧
      List.Forall₂ (fun j hit => ∃ v, LeadsTo source sink line (lines.zipIdx (k + 1)) j v ∧
        Reports source sink (lines.zipIdx (k + 1)) k j v hit) js hits := by
  by_cases hline : ∃ v, AssignsFrom source line v ∧ isMentionable v = true
  · obtain ⟨v, hassigns, hmentionable⟩ := hline
    obtain ⟨value, hassigned, hsource⟩ := id hassigns
    obtain ⟨js, hjs, hmem, hhits⟩ := reached_exact source sink (assigned?_isVariable hassigned) k lines
    refine ⟨js, reached source sink k v lines, ?_, hjs, fun j => ?_, ?_⟩
    · rw [flowFrom, hassigned]
      simp only [isMatch_iff.mpr hsource, hmentionable, Bool.and_true, if_true]
    · rw [hmem]
      constructor
      · intro h
        exact ⟨v, ⟨hassigns, h⟩, hmentionable⟩
      · rintro ⟨v', ⟨⟨value', hassigned', -⟩, h⟩, -⟩
        cases hassigned.symm.trans hassigned'
        exact h
    · exact hhits.imp fun j hit h => ⟨v, ⟨hassigns, h.1⟩, h.2⟩
  · refine ⟨[], [], ?_, .nil, fun j => ⟨by simp, ?_⟩, .nil⟩
    · rw [flowFrom]
      congr 1
      cases hassigned : assigned? line with
      | none => rfl
      | some assignment =>
        refine if_neg fun h => hline ⟨assignment.1, ?_, (Bool.and_eq_true_iff.mp h).2⟩
        exact ⟨assignment.2, hassigned, isMatch_iff.mp (Bool.and_eq_true_iff.mp h).1⟩
    · rintro ⟨v, ⟨hassigns, -⟩, hmentionable⟩
      exact absurd ⟨v, hassigns, hmentionable⟩ hline

theorem flowFrom_exact (source sink : TextPattern) (k : Nat) (lines : List (List Char)) :
    ∃ pairs : List (Nat × Nat), pairs.Pairwise Precedes ∧
      (∀ i j, (i, j) ∈ pairs ↔ ∃ v, Reaches source sink (lines.zipIdx k) i j v ∧ isMentionable v = true) ∧
      List.Forall₂ (fun x hit => ∃ v, Reaches source sink (lines.zipIdx k) x.1 x.2 v ∧
        Reports source sink (lines.zipIdx k) x.1 x.2 v hit) pairs (flowFrom source sink k lines) := by
  induction lines generalizing k with
  | nil =>
    refine ⟨[], .nil, fun i j => ⟨by simp, ?_⟩, .nil⟩
    rintro ⟨v, ⟨-, ⟨line, hline, -⟩, -⟩, -⟩
    cases hline
  | cons line lines ih =>
    obtain ⟨pairs, hpairs, hmem, hforall⟩ := ih (k + 1)
    obtain ⟨js, hits, hflow, hjs, hjmem, hhits⟩ := flowFrom_cons source sink k line lines
    have hlater (x : List Char × Nat) (hx : x ∈ lines.zipIdx (k + 1)) : x ∈ (line :: lines).zipIdx k :=
      List.mem_cons_of_mem _ hx
    rw [hflow]
    refine ⟨js.map (k, ·) ++ pairs, ?_, fun i j => ?_, List.rel_append ?_ ?_⟩
    · refine List.pairwise_append.mpr ⟨?_, hpairs, fun x hx y hy => ?_⟩
      · exact List.pairwise_map.mpr (hjs.imp fun h => .inr ⟨rfl, h⟩)
      · obtain ⟨j, -, rfl⟩ := List.mem_map.mp hx
        obtain ⟨v, ⟨-, ⟨l, hl, -⟩, -⟩, -⟩ := (hmem y.1 y.2).mp hy
        exact .inl (List.mk_mem_zipIdx_iff_le_and_getElem?_sub.mp hl).1
    · have hfirst : (i, j) ∈ js.map (k, ·) ↔ i = k ∧ j ∈ js := by
        constructor
        · intro h
          obtain ⟨j', hj', heq⟩ := List.mem_map.mp h
          cases heq
          exact ⟨rfl, hj'⟩
        · rintro ⟨rfl, hj⟩
          exact List.mem_map.mpr ⟨j, hj, rfl⟩
      rw [List.mem_append, hfirst, hjmem, hmem]
      simp only [reaches_cons_iff]
      constructor
      · rintro (⟨rfl, v, hv, hmentionable⟩ | ⟨v, hv, hmentionable⟩)
        · exact ⟨v, .inl ⟨rfl, hv⟩, hmentionable⟩
        · exact ⟨v, .inr hv, hmentionable⟩
      · rintro ⟨v, ⟨rfl, hv⟩ | hv, hmentionable⟩
        · exact .inl ⟨rfl, v, hv, hmentionable⟩
        · exact .inr ⟨v, hv, hmentionable⟩
    · refine List.forall₂_map_left_iff.mpr (hhits.imp fun j hit h => ?_)
      obtain ⟨v, hv, hreports⟩ := h
      exact ⟨v, reaches_cons_iff.mpr (.inl ⟨rfl, hv⟩), hreports.mono hlater⟩
    · refine hforall.imp fun x hit h => ?_
      obtain ⟨v, hv, hreports⟩ := h
      exact ⟨v, reaches_cons_iff.mpr (.inr hv), hreports.mono hlater⟩

/-- **The hits of a flow.** There is one for each two lines of which the first assigns a variable from something that
the source matches, and the second comes later, is matched by the sink and mentions the variable as a whole word,
provided that the variable can be looked for. The hits are in the order of the pairs of lines; each is on the second
line, names the variable and is at its first mention. Every variable of at most 250000 bytes can be looked for, and
none of more than 327680. -/
theorem run_flow_exact (source sink : TextPattern) (tree : SyntaxTree) (content : String) :
    let lines := (Text.lines content.toList).zipIdx 1
    (∃ pairs : List (Nat × Nat), pairs.Pairwise Precedes ∧
      (∀ i j, (i, j) ∈ pairs ↔ ∃ v, Reaches source sink lines i j v ∧ isMentionable v = true) ∧
      List.Forall₂
        (fun x hit => ∃ v, Reaches source sink lines x.1 x.2 v ∧ Reports source sink lines x.1 x.2 v hit)
        pairs ((flow source sink).run tree content)) ∧
    (∀ v, byteLength v ≤ 250000 → isMentionable v = true) ∧ ∀ v, 327680 < byteLength v → isMentionable v = false :=
  ⟨flowFrom_exact source sink 1 _, fun _ => isMentionable_of_le, fun _ => not_isMentionable_of_lt⟩

/-! ## A variable that is too long -/

def wordPattern (word : String) : TextPattern := ⟨word, literal word.toList⟩

/-- A line that assigns a variable, and a line that hands it on. -/
def handedOn (v : List Char) : List Char := (v ++ "=req".toList) ++ '\n' :: ("eval(".toList ++ (v ++ [')']))

theorem lines_handedOn (hv : IsVariable v) :
    Text.lines (handedOn v) = [v ++ "=req".toList, "eval(".toList ++ (v ++ [')'])] := by
  have hfeed : '\n' ∉ v := fun h => absurd (hv.continues _ h) (mem_nameBreak.mp (by decide +kernel))
  rw [handedOn, Text.lines_append_feed, Text.lines_of_line]
  · simp
  · simp [hfeed]
  · simp [hfeed]
  · simp

theorem startsBehind_word {word : String} (a b : List Char) :
    StartsBehind (wordPattern word).regex (a ++ (word.toList ++ b)) a :=
  ⟨_, _, rfl, takes_literal_iff.mpr ⟨b, rfl, rfl⟩⟩

/-- A line that hands on a variable is reached, however long the variable is. -/
theorem reaches_handedOn {c : Char} {w : List Char} (hc : nameStart.mem c = true) (hw : ∀ x ∈ w, Continues x) :
    Reaches (wordPattern "req") (wordPattern "eval") ((Text.lines (handedOn (c :: w))).zipIdx 1) 1 2 (c :: w) := by
  rw [lines_handedOn (isVariable_cons hc hw)]
  refine ⟨by decide, ⟨_, List.mem_cons_self, "req".toList, ?_, [], ?_⟩, _,
    List.mem_cons_of_mem _ List.mem_cons_self, ⟨[], ?_⟩, "eval(".toList, [')'], rfl, ?_, ?_⟩
  · exact assigned?_plain hc hw (by decide) (by decide) (by decide)
  · exact startsBehind_word [] []
  · exact startsBehind_word [] _
  · rintro _ ⟨⟩
    exact mem_nameBreak.mp (by decide +kernel)
  · rintro _ ⟨⟩
    exact mem_nameBreak.mp (by decide +kernel)

/-- Nothing is reported for a variable that is too long to be looked for. -/
theorem run_handedOn {c : Char} {w : List Char} (hc : nameStart.mem c = true) (hw : ∀ x ∈ w, Continues x)
    (hlong : 327680 < byteLength (c :: w)) (tree : SyntaxTree) :
    (flow (wordPattern "req") (wordPattern "eval")).run tree (String.ofList (handedOn (c :: w))) = [] := by
  have hassigned : assigned? (c :: w ++ "=req".toList) = some (c :: w, "req".toList) :=
    assigned?_plain hc hw (by decide) (by decide) (by decide)
  have hlast (source sink : TextPattern) (line : List Char) : flowFrom source sink 2 [line] = [] := by
    rw [flowFrom, flowFrom, List.append_nil]
    split
    · split <;> rfl
    · rfl
  show flowFrom _ _ 1 (Text.lines (String.ofList _).toList) = []
  rw [String.toList_ofList, lines_handedOn (isVariable_cons hc hw), flowFrom, hassigned, hlast]
  simp only [not_isMentionable_of_lt hlong, Bool.and_false, Bool.false_eq_true, if_false, List.append_nil]

/-- A variable of half a million letters is assigned from the source and handed on to the sink, but there is no hit. -/
theorem run_flow_half_million_letters :
    let v := 'x' :: List.replicate 499999 'x'
    Reaches (wordPattern "req") (wordPattern "eval") ((Text.lines (handedOn v)).zipIdx 1) 1 2 v ∧
      ∀ tree, (flow (wordPattern "req") (wordPattern "eval")).run tree (String.ofList (handedOn v)) = [] := by
  have hw (x : Char) (hx : x ∈ List.replicate 499999 'x') : Continues x := by
    rw [List.eq_of_mem_replicate hx]
    exact .inl (by decide)
  have hlong : 327680 < byteLength ('x' :: List.replicate 499999 'x') := by
    rw [Text.byteLength_cons, Text.byteLength_replicate]
    decide
  exact ⟨reaches_handedOn (by decide) hw, run_handedOn (by decide) hw hlong⟩

end SourceAudit.LegacyPattern
