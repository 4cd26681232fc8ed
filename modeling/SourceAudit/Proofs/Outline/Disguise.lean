import Mathlib.Data.List.Forall2
import SourceAudit.Outline.Build
import SourceAudit.Proofs.Outline.Declaration
import SourceAudit.Proofs.Text.Lines

/-!
# Texts that differ only in strings and comments

* `Region` : what a place of a source belongs to; `Region.next` goes on by one character;
* `Region.hides` : the character lies strictly inside a string or behind a comment marker;
* `disguises hash r cs ds` : `ds` is `cs` with some hidden characters replaced by harmless ones of the same size;
* `Alike hash r line line'` : the same for two lines, both ways round;
* `lines_alike` : the lines of a disguised text are alike, one by one;
* `maskLine_alike` : alike lines have the same mask and the same strings;
* `Alike.leading`, `blockLines_alike` : they are indented alike, and so are the lines of their blocks;
* `Alike.sizes`, `columnAt?_sizes`, `slice?_isSome_sizes` : they have the same columns and can be cut at the same
  places.
-/

namespace SourceAudit.Outline

open Text (byteLength IsBoundary)

/-! ## Regions -/

/-- What a place of a source belongs to. -/
inductive Region where
  | code
  /-- Inside a string; `escaped` after a backslash. -/
  | string (quote : Char) (escaped : Bool)
  /-- Between the two characters of `//`. -/
  | marker
  /-- Behind a comment marker. -/
  | comment
  deriving DecidableEq, Repr

namespace Region

/-- The region behind a character of a line, which `rest` follows. -/
def next (hash : Bool) (c : Char) (rest : List Char) : Region → Region
  | code =>
    if isQuote c then string c false
    else if startsComment hash (c :: rest) then if c == '#' then comment else marker
    else code
  | string quote true => string quote false
  | string quote false => if c == '\\' then string quote true else if c == quote then code else string quote false
  | marker => comment
  | comment => comment

/-- Whether a character lies strictly inside a string, that is between its quotation marks, or behind a comment
marker. -/
def hides (c : Char) : Region → Bool
  | code => false
  | string quote escaped => escaped || c != quote
  | marker => false
  | comment => true

end Region

/-- Whether a character can stand for another one in a string or a comment: neither is a quotation mark or a
backslash, they have the same size, and the new one is no part of a line end. -/
def standsFor (d c : Char) : Bool :=
  !isQuote c && c != '\\' && !isQuote d && d != '\\' && d != '\n' && d != '\r' && d.utf8Size == c.utf8Size

def startsLineEnd : List Char → Bool
  | '\n' :: _ => true
  | '\r' :: '\n' :: _ => true
  | _ => false

/-- Whether the second text is the first one with some hidden characters replaced by others that can stand for them. -/
def disguises (hash : Bool) : Region → List Char → List Char → Bool
  | _, [], [] => true
  | r, c :: cs, d :: ds =>
    if startsLineEnd (c :: cs) then c == d && disguises hash .code cs ds
    else (c == d || r.hides c && standsFor d c) && disguises hash (r.next hash c cs) cs ds
  | _, _, _ => false

/-! ## Alike lines -/

/-- Two characters neither of which has a meaning in a string or a comment, of the same size. -/
structure Harmless (c d : Char) : Prop where
  not_quote : isQuote c = false
  not_backslash : c ≠ '\\'
  not_quote' : isQuote d = false
  not_backslash' : d ≠ '\\'
  size : d.utf8Size = c.utf8Size

/-- Two lines that differ in hidden characters only. -/
inductive Alike (hash : Bool) : Region → List Char → List Char → Prop where
  | nil (r : Region) : Alike hash r [] []
  | same {r : Region} (c : Char) {cs ds : List Char} :
      Alike hash (r.next hash c cs) cs ds → Alike hash r (c :: cs) (c :: ds)
  | hidden {r : Region} {c d : Char} {cs ds : List Char} : r.hides c = true → Harmless c d →
      Alike hash (r.next hash c cs) cs ds → Alike hash r (c :: cs) (d :: ds)

section Alike

variable {hash : Bool} {r : Region} {cs ds : List Char} {c d : Char}

/-- Where nothing is hidden, the same character follows. -/
theorem Alike.head_eq (h : Alike hash r cs ds) (hr : ∀ c, r.hides c = false) : cs.head? = ds.head? := by
  cases h with
  | nil => rfl
  | same c _ => rfl
  | hidden hh _ _ => simp [hr] at hh

theorem startsComment_cons (hash : Bool) (c : Char) (cs : List Char) :
    startsComment hash (c :: cs) = (c == '#' && hash || c == '/' && cs.head? == some '/') := by
  unfold startsComment
  split
  · rename_i h
    cases h
    simp
  · rename_i h
    cases h
    simp
  · rename_i hhash hslash
    have h₁ : c ≠ '#' := fun h => hhash cs (h ▸ rfl)
    cases cs with
    | nil => simp [h₁]
    | cons d cs =>
      have h₂ : ¬(c = '/' ∧ d = '/') := fun h => hslash cs (by rw [h.1, h.2])
      simpa [h₁] using h₂

/-- Of what follows a character, only a slash counts. -/
theorem Region.next_congr (h : (cs.head? == some '/') = (ds.head? == some '/')) :
    r.next hash c cs = r.next hash c ds := by
  unfold Region.next
  rw [startsComment_cons, startsComment_cons, h]

/-- Whether a character of code stays code whatever follows it. -/
def isPlain (c : Char) : Bool := !isQuote c && c != '#' && c != '/'

theorem Region.next_of_isPlain (h : isPlain c = true) : Region.code.next hash c cs = .code := by
  simp only [isPlain, Bool.and_eq_true, Bool.not_eq_true', bne_iff_ne, ne_eq] at h
  simp [Region.next, startsComment_cons, h]

theorem isPlain_of_isBlank (h : Text.isBlank c = true) : isPlain c = true := by
  have := Text.eq_false_of_isBlank (p := fun c => !isPlain c) (by decide) h
  simpa using this

/-- The string that a region is inside of was opened by a quotation mark. -/
def Region.Quoted (r : Region) : Prop := ∀ quote escaped, r = .string quote escaped → isQuote quote = true

theorem Region.quoted_code : Region.code.Quoted := nofun

theorem Region.Quoted.next (h : r.Quoted) (hash : Bool) (c : Char) (cs : List Char) : (r.next hash c cs).Quoted := by
  intro quote escaped hr
  cases r with
  | code =>
    rw [Region.next] at hr
    split at hr
    · rename_i hq
      cases hr
      exact hq
    · split at hr
      · split at hr <;> cases hr
      · cases hr
  | string quote' escaped' =>
    have hq := h quote' escaped' rfl
    cases escaped' with
    | true =>
      cases hr
      exact hq
    | false =>
      rw [Region.next] at hr
      split at hr
      · cases hr
        exact hq
      · split at hr <;> cases hr
        exact hq
  | marker => cases hr
  | comment => cases hr

/-- A harmless character is hidden like the one it stands for, and leads to the same region. -/
theorem Harmless.region (h : Harmless c d) (hh : r.hides c = true) (hq : r.Quoted) (hash : Bool) (cs ds : List Char) :
    r.hides d = true ∧ r.next hash d ds = r.next hash c cs := by
  cases r with
  | code => cases hh
  | marker => cases hh
  | comment => exact ⟨rfl, rfl⟩
  | string quote escaped =>
    have hne {c : Char} (hc : isQuote c = false) : c ≠ quote := by
      rintro rfl
      rw [hq _ _ rfl] at hc
      cases hc
    cases escaped with
    | true => exact ⟨rfl, rfl⟩
    | false => simp [Region.hides, Region.next, hne h.not_quote, hne h.not_quote', h.not_backslash, h.not_backslash']

theorem Harmless.symm (h : Harmless c d) : Harmless d c :=
  ⟨h.not_quote', h.not_backslash', h.not_quote, h.not_backslash, h.size.symm⟩

/-- A comment starts at the same place of both lines. -/
theorem Alike.startsComment_eq (h : Alike hash (Region.code.next hash c cs) cs ds) (hq : isQuote c = false) :
    startsComment hash (c :: ds) = startsComment hash (c :: cs) := by
  rw [startsComment_cons, startsComment_cons]
  by_cases hc : c = '/'
  · -- what follows a slash shows: it is code, or the other half of a marker
    have hshows (d : Char) : (Region.code.next hash c cs).hides d = false := by
      rw [Region.next, if_neg (by simp [hq]), hc]
      split <;> rfl
    rw [h.head_eq hshows]
  · rw [beq_eq_false_iff_ne.2 hc, Bool.false_and, Bool.false_and]

/-- A character that shows leads to the same region in both lines. -/
theorem Alike.next_eq (h : Alike hash (r.next hash c cs) cs ds) : r.next hash c ds = r.next hash c cs := by
  cases r with
  | code =>
    cases hq : isQuote c with
    | true => simp only [Region.next, hq, if_true]
    | false => rw [Region.next, Region.next, h.startsComment_eq hq]
  | string quote escaped => cases escaped <;> rfl
  | marker => rfl
  | comment => rfl

theorem Alike.symm (h : Alike hash r cs ds) (hq : r.Quoted) : Alike hash r ds cs := by
  induction h with
  | nil r => exact .nil r
  | same c h ih => exact .same c (h.next_eq ▸ ih (hq.next hash c _))
  | @hidden r c d cs ds hh hharmless h ih =>
    obtain ⟨hd, hnext⟩ := hharmless.region hh hq hash cs ds
    exact .hidden hd hharmless.symm (hnext ▸ ih (hq.next hash c _))

theorem Alike.sizes (h : Alike hash r cs ds) : ds.map Char.utf8Size = cs.map Char.utf8Size := by
  induction h with
  | nil r => rfl
  | same c h ih => rw [List.map_cons, List.map_cons, ih]
  | hidden hh hharmless h ih => rw [List.map_cons, List.map_cons, ih, hharmless.size]

end Alike

/-! ## Lines of a text -/

theorem startsLineEnd_cases {cs : List Char} (h : startsLineEnd cs = true) :
    (∃ rest, cs = '\n' :: rest) ∨ ∃ rest, cs = '\r' :: '\n' :: rest := by
  unfold startsLineEnd at h
  split at h
  · exact .inl ⟨_, rfl⟩
  · exact .inr ⟨_, rfl⟩
  · cases h

theorem lines_cons {c : Char} {cs : List Char} (h : startsLineEnd (c :: cs) = false) :
    Text.lines (c :: cs) = ((c :: (Text.lines cs).headD []) :: (Text.lines cs).tail) := by
  refine Text.lines_cons ?_ ?_
  · rintro rfl
    cases h
  · rintro rfl hhead
    obtain ⟨rest, rfl⟩ := List.head?_eq_some_iff.mp hhead
    cases h

/-- A slash starts the first line exactly if it starts the text. -/
theorem head?_first_line (cs : List Char) :
    (((Text.lines cs).headD []).head? == some '/') = (cs.head? == some '/') := by
  cases cs with
  | nil => rfl
  | cons c cs =>
    cases h : startsLineEnd (c :: cs) with
    | false =>
      rw [lines_cons h]
      rfl
    | true => rcases startsLineEnd_cases h with ⟨rest, he⟩ | ⟨rest, he⟩ <;> cases he <;> rfl

section Lines

variable {hash : Bool} {r : Region} {c d : Char} {cs ds : List Char}

theorem not_line_end_of_standsFor (h : standsFor d c = true) : startsLineEnd (d :: ds) = false := by
  simp only [standsFor, Bool.and_eq_true, bne_iff_ne] at h
  refine Bool.eq_false_iff.mpr fun hend => ?_
  rcases startsLineEnd_cases hend with ⟨rest, he⟩ | ⟨rest, he⟩
  · exact h.1.1.2 (List.cons.inj he).1
  · exact h.1.2 (List.cons.inj he).1

/-- A line feed stands only where there was one. -/
theorem head?_of_disguises (h : disguises hash r cs ('\n' :: ds) = true) : cs.head? = some '\n' := by
  cases cs with
  | nil => cases h
  | cons c cs =>
    rw [disguises] at h
    split at h
    · simp only [Bool.and_eq_true, beq_iff_eq] at h
      rw [List.head?_cons, h.1]
    · simp only [Bool.and_eq_true, Bool.or_eq_true, beq_iff_eq] at h
      rcases h.1 with h | h
      · rw [List.head?_cons, h]
      · simp [standsFor] at h

/-- A disguised text has its line ends where they were. -/
theorem not_line_end_of_disguises (h : disguises hash r (c :: cs) (d :: ds) = true)
    (hc : startsLineEnd (c :: cs) = false) : startsLineEnd (d :: ds) = false := by
  rw [disguises, if_neg (by simp [hc])] at h
  simp only [Bool.and_eq_true, Bool.or_eq_true, beq_iff_eq] at h
  obtain ⟨rfl | ⟨-, hs⟩, hrest⟩ := h
  · refine Bool.eq_false_iff.mpr fun hend => ?_
    rcases startsLineEnd_cases hend with ⟨rest, he⟩ | ⟨rest, he⟩ <;> cases he
    · cases hc
    · obtain ⟨cs, rfl⟩ := List.head?_eq_some_iff.1 (head?_of_disguises hrest)
      cases hc
  · exact not_line_end_of_standsFor hs

theorem harmless_of_standsFor (h : standsFor d c = true) : Harmless c d := by
  simp only [standsFor, Bool.and_eq_true, Bool.not_eq_true', bne_iff_ne, beq_iff_eq] at h
  obtain ⟨⟨⟨⟨⟨⟨hc, hc'⟩, hd⟩, hd'⟩, -⟩, -⟩, hsize⟩ := h
  exact ⟨hc, hc', hd, hd', hsize⟩

/-- The first lines of two texts are alike from a region on, the others from code on. -/
structure LinesAlike (hash : Bool) (r : Region) (ls ls' : List (List Char)) : Prop where
  first : Alike hash r (ls.headD []) (ls'.headD [])
  others : List.Forall₂ (Alike hash .code) ls.tail ls'.tail
  isEmpty : ls.isEmpty = ls'.isEmpty

theorem LinesAlike.forall₂ {ls ls' : List (List Char)} (h : LinesAlike hash .code ls ls') :
    List.Forall₂ (Alike hash .code) ls ls' := by
  obtain ⟨hfirst, hothers, hempty⟩ := h
  cases ls with
  | nil =>
    rw [List.isEmpty_iff.1 hempty.symm]
    exact .nil
  | cons l ls =>
    cases ls' with
    | nil => cases hempty
    | cons l' ls' => exact .cons hfirst hothers

theorem linesAlike_of_disguises (h : disguises hash r cs ds = true) :
    LinesAlike hash r (Text.lines cs) (Text.lines ds) := by
  induction cs generalizing r ds with
  | nil =>
    cases ds with
    | nil => exact ⟨.nil r, .nil, rfl⟩
    | cons d ds => cases h
  | cons c cs ih =>
    cases ds with
    | nil => cases h
    | cons d ds =>
      cases hc : startsLineEnd (c :: cs) with
      | true =>
        rw [disguises, if_pos hc] at h
        simp only [Bool.and_eq_true, beq_iff_eq] at h
        obtain ⟨rfl, hrest⟩ := h
        have hlines := ih hrest
        rcases startsLineEnd_cases hc with ⟨rest, he⟩ | ⟨rest, he⟩ <;> cases he
        · exact ⟨.nil r, hlines.forall₂, rfl⟩
        · -- the carriage return belongs to the line end, so the lines are those of what follows it
          cases ds with
          | nil => cases hrest
          | cons d ds =>
            rw [disguises, if_pos (by rfl)] at hrest
            simp only [Bool.and_eq_true, beq_iff_eq] at hrest
            obtain ⟨rfl, -⟩ := hrest
            exact ⟨.nil r, hlines.others, rfl⟩
      | false =>
        rw [lines_cons hc, lines_cons (not_line_end_of_disguises h hc)]
        rw [disguises, if_neg (by simp [hc])] at h
        simp only [Bool.and_eq_true, Bool.or_eq_true, beq_iff_eq] at h
        obtain ⟨hhead, hrest⟩ := h
        obtain ⟨hfirst, hothers, -⟩ := ih hrest
        rw [← Region.next_congr (head?_first_line cs)] at hfirst
        refine ⟨?_, hothers, rfl⟩
        rcases hhead with rfl | ⟨hh, hs⟩
        · exact .same c hfirst
        · exact .hidden hh (harmless_of_standsFor hs) hfirst

theorem lines_alike (h : disguises hash .code cs ds = true) :
    List.Forall₂ (Alike hash .code) (Text.lines cs) (Text.lines ds) := (linesAlike_of_disguises h).forall₂

end Lines

/-! ## Masks -/

section Masks

variable {hash : Bool} {before before' cs ds : List Char}

def ScanState.region : ScanState → Region
  | .code => .code
  | .string quote _ escaped => .string quote escaped

/-- Two texts, backwards, that agree up to a quotation mark. -/
inductive SameLead : List Char → List Char → Prop where
  | nil : SameLead [] []
  | quote {q : Char} (a b : List Char) : isQuote q = true → SameLead (q :: a) (q :: b)
  | cons (c : Char) {a b : List Char} : SameLead a b → SameLead (c :: a) (c :: b)

/-- The letters before a quotation mark do not go beyond an earlier one. -/
theorem SameLead.leadLength_eq (h : SameLead before before') : leadLength before' = leadLength before := by
  cases h with
  | nil => rfl
  | quote a b hq => simp [leadLength, not_isStringLetter_of_isQuote hq]
  | cons c h =>
    cases hc : isStringLetter c with
    | false => simp [leadLength, hc]
    | true =>
      cases h with
      | nil => rfl
      | quote a b hq => simp [leadLength, hc, not_isStringLetter_of_isQuote hq]
      | cons d h =>
        cases hd : isStringLetter d with
        | false => simp [leadLength, hc, hd]
        | true => cases h <;> simp [leadLength, hc, hd]

theorem byteLength_eq_of_sizes (h : ds.map Char.utf8Size = cs.map Char.utf8Size) : byteLength ds = byteLength cs := by
  induction cs generalizing ds with
  | nil => rw [List.map_eq_nil_iff.1 h]
  | cons c cs ih =>
    obtain ⟨d, ds, rfl, hd, hds⟩ := List.map_eq_cons_iff.1 h
    rw [Text.byteLength_cons, Text.byteLength_cons, hd, ih hds]

theorem spaces_eq_of_sizes (h : ds.map Char.utf8Size = cs.map Char.utf8Size) : spaces ds = spaces cs := by
  rw [spaces, spaces, byteLength_eq_of_sizes h]

theorem maskFrom_alike {r : Region} {state : ScanState} {offset : Nat} (h : Alike hash r cs ds) (hr : state.region = r)
    (hq : r.Quoted) (hlead : state = .code → SameLead before before') :
    maskFrom hash state before' offset ds = maskFrom hash state before offset cs := by
  induction h generalizing state before before' offset with
  | nil r => cases state <;> rfl
  | @same r c cs ds h ih =>
    subst hr
    have hnext := hq.next hash c cs
    cases state with
    | code =>
      have hlead := hlead rfl
      cases hc : isQuote c with
      | true =>
        simp only [ScanState.region, Region.next, hc, if_true] at ih hnext
        simp only [maskFrom, hc, if_true, hlead.leadLength_eq]
        exact congrArg _ (ih rfl hnext (by simp))
      | false =>
        have hstart := h.startsComment_eq hc
        cases hcomment : startsComment hash (c :: cs) with
        | true =>
          have hspaces : spaces (c :: ds) = spaces (c :: cs) := spaces_eq_of_sizes (by simp [h.sizes])
          simp only [maskFrom, hc, hstart, hcomment, hspaces, Bool.false_eq_true, if_true, if_false]
        | false =>
          simp only [ScanState.region, Region.next, hc, hcomment, Bool.false_eq_true, if_false] at ih hnext
          simp only [maskFrom, hc, hstart, hcomment, Bool.false_eq_true, if_false]
          exact congrArg _ (ih rfl hnext fun _ => hlead.cons c)
    | string quote start escaped =>
      have hquote := hq quote escaped rfl
      cases escaped with
      | true =>
        simp only [maskFrom, if_true]
        exact congrArg _ (ih rfl hnext (by simp))
      | false =>
        simp only [ScanState.region, Region.next] at ih hnext
        simp only [maskFrom, Bool.false_eq_true, if_false]
        split
        · rename_i hc
          simp only [hc, if_true] at ih hnext
          exact congrArg _ (ih rfl hnext (by simp))
        · rename_i hc
          simp only [hc] at ih hnext
          split
          · rename_i hc
            simp only [hc, if_true] at ih hnext
            obtain rfl := beq_iff_eq.1 hc
            exact congrArg (fun m => (MaskedLine.withString _ m).after [c]) (ih rfl hnext fun _ => .quote _ _ hquote)
          · rename_i hc
            simp only [hc] at ih hnext
            exact congrArg _ (ih rfl hnext (by simp))
  | @hidden r c d cs ds hh hharmless h ih =>
    subst hr
    have hnext := hq.next hash c cs
    have hspaces : spaces [d] = spaces [c] := spaces_eq_of_sizes (by simp [hharmless.size])
    cases state with
    | code => cases hh
    | string quote start escaped =>
      cases escaped with
      | true =>
        simp only [maskFrom, if_true, hspaces, hharmless.size]
        exact congrArg _ (ih rfl hnext (by simp))
      | false =>
        have hd := (hharmless.region hh hq hash cs ds).1
        simp only [ScanState.region, Region.hides, Bool.false_or, bne_iff_ne, ne_eq] at hh hd
        simp only [ScanState.region, Region.next, beq_iff_eq, hh, hharmless.not_backslash, if_false] at ih hnext
        simp only [maskFrom, beq_iff_eq, hh, hd, hharmless.not_backslash, hharmless.not_backslash', hspaces,
          hharmless.size, Bool.false_eq_true, if_false]
        exact congrArg _ (ih rfl hnext (by simp))

theorem maskLine_alike (h : Alike hash .code cs ds) : maskLine hash ds = maskLine hash cs :=
  maskFrom_alike h rfl Region.quoted_code fun _ => .nil

end Masks

/-! ## Indentation -/

section Indentation

variable {hash : Bool} {line line' : List Char} {rest rest' : List (List Char)}

/-- Alike lines start with the same blanks and the same character behind them. -/
theorem Alike.leading (h : Alike hash .code line line') :
    line'.takeWhile Text.isBlank = line.takeWhile Text.isBlank ∧
      (Text.trimStart line').head? = (Text.trimStart line).head? := by
  induction line generalizing line' with
  | nil =>
    cases h
    exact ⟨rfl, rfl⟩
  | cons c line ih =>
    cases h with
    | hidden hh _ _ => cases hh
    | same c h =>
      cases hc : Text.isBlank c with
      | false => simp [Text.trimStart, hc]
      | true =>
        rw [Region.next_of_isPlain (isPlain_of_isBlank hc)] at h
        simpa [Text.trimStart, hc] using ih h

theorem Alike.indentation_eq (h : Alike hash .code line line') : indentation line' = indentation line := by
  rw [indentation, indentation, h.leading.1]

theorem blockLengthFrom_alike {indent passed last : Nat} (h : List.Forall₂ (Alike hash .code) rest rest') :
    blockLengthFrom indent passed last rest' = blockLengthFrom indent passed last rest := by
  induction h generalizing passed last with
  | nil => rfl
  | @cons line line' rest rest' hline hrest ih =>
    have hhead := hline.leading.2
    rw [blockLengthFrom, blockLengthFrom, hline.indentation_eq]
    cases htrim : Text.trimStart line with
    | nil =>
      rw [htrim, List.head?_nil, List.head?_eq_none_iff] at hhead
      rw [hhead]
      exact ih
    | cons c cs =>
      rw [htrim, List.head?_cons] at hhead
      obtain ⟨ds, hds⟩ := List.head?_eq_some_iff.1 hhead
      rw [hds]
      simp only [ih]

theorem blockLines_alike (hline : Alike hash .code line line') (hrest : List.Forall₂ (Alike hash .code) rest rest') :
    List.Forall₂ (Alike hash .code) (blockLines line rest) (blockLines line' rest') := by
  rw [blockLines, blockLines, hline.indentation_eq, blockLengthFrom_alike hrest]
  exact List.forall₂_take _ hrest

end Indentation

/-! ## Cuts -/

section Sizes

variable {cs ds : List Char}

theorem takeBytes?_sizes (h : ds.map Char.utf8Size = cs.map Char.utf8Size) (n : Nat) :
    (Text.takeBytes? ds n).map List.length = (Text.takeBytes? cs n).map List.length := by
  fun_induction Text.takeBytes? cs n generalizing ds with
  | case1 cs => simp [Text.takeBytes?]
  | case2 n => rw [List.map_eq_nil_iff.1 h, Text.takeBytes?]
  | case3 c cs n hc ih =>
    obtain ⟨d, ds, rfl, hd, hds⟩ := List.map_eq_cons_iff.1 h
    have ih := ih hds
    rw [Text.takeBytes?, hd, if_pos hc]
    rw [Option.map_map, Option.map_map]
    simpa [Function.comp_def] using congrArg (Option.map (· + 1)) ih
  | case4 c cs n hc =>
    obtain ⟨d, ds, rfl, hd, hds⟩ := List.map_eq_cons_iff.1 h
    rw [Text.takeBytes?, hd, if_neg hc]

theorem columnAt?_sizes (h : ds.map Char.utf8Size = cs.map Char.utf8Size) (n : Nat) :
    Text.columnAt? ds n = Text.columnAt? cs n := by
  simpa [Text.columnAt?, Function.comp_def] using congrArg (Option.map (· + 1)) (takeBytes?_sizes h n)

theorem isBoundary_sizes (h : ds.map Char.utf8Size = cs.map Char.utf8Size) {n : Nat} :
    IsBoundary ds n ↔ IsBoundary cs n := by
  rw [← Text.columnAt?_isSome_iff, ← Text.columnAt?_isSome_iff, columnAt?_sizes h]

theorem slice?_isSome_sizes (h : ds.map Char.utf8Size = cs.map Char.utf8Size) (start stop : Nat) :
    (Text.slice? ds start stop).isSome = (Text.slice? cs start stop).isSome := by
  rw [Bool.eq_iff_iff, Text.slice?_isSome_iff, Text.slice?_isSome_iff, isBoundary_sizes h, isBoundary_sizes h]

end Sizes

end SourceAudit.Outline
