import SourceAudit.Outline.Candidate
import SourceAudit.Proofs.Outline.Name

/-!
# The texts of strings

* `OpensString text` : letters and a quotation mark come first, and the text is longer than a quotation mark;
* `literalValue?_eq_string_iff` : such texts have strings for their values, and no others;
* `StringBody text` : a string with its letters, closed or of nothing but its quotation mark;
* `stringBody_of_mem` : a string of a line that ends where something shows in the mask is such a text.
-/

namespace SourceAudit.Outline

open Text (byteLength)

variable {line mask text : List Char} {s : Span}

/-! ## Values -/

/-- The text starts like a string: with letters and a quotation mark, and has two bytes at least. -/
def OpensString (text : List Char) : Prop :=
  2 ≤ byteLength text ∧ ∃ letters quote rest, text = letters ++ quote :: rest ∧ (∀ c ∈ letters, c.isAlpha = true) ∧
    isQuote quote = true

theorem isQuote_cases {c : Char} (h : isQuote c = true) : c = '\x22' ∨ c = '\x27' ∨ c = '\x60' := by
  simpa [isQuote, or_assoc] using h

/-- A word of letters holds no quotation mark, in either case. -/
theorem map_toLower_ne {quote : Char} (hquote : isQuote quote = true) (hmem : quote ∈ text) {word : String}
    (hword : word.toList.all (fun c => !isQuote c) = true) : String.ofList (text.map Char.toLower) ≠ word := by
  rintro rfl
  rw [String.toList_ofList] at hword
  have hlower : quote.toLower = quote := by
    rcases isQuote_cases hquote with rfl | rfl | rfl <;> rfl
  have := List.all_eq_true.mp hword _ (List.mem_map_of_mem hmem)
  rw [hlower, hquote] at this
  cases this

theorem not_isDigit_of_isAlpha {c : Char} (h : c.isAlpha = true) : c.isDigit = false := by
  rw [Bool.eq_false_iff]
  intro hdigit
  have hcodes : ∀ n < 58, 48 ≤ n → (Char.ofNat n).isAlpha = false := by decide
  obtain ⟨hlow, hhigh⟩ := Char.isDigit_iff_toNat.mp hdigit
  have := hcodes c.toNat (Nat.lt_succ_of_le hhigh) hlow
  rw [Char.ofNat_toNat, h] at this
  cases this

/-- What starts with a letter or a quotation mark and holds a quotation mark is no number. -/
theorem parse?_eq_none_of_quoted {c : Char} {rest : List Char} (hc : c.isAlpha = true ∨ isQuote c = true) {quote : Char}
    (hquote : isQuote quote = true) (hmem : quote ∈ c :: rest) : Binary64.parse? (c :: rest) = none := by
  have hne (d : Char) (hd : d.isAlpha = false) (hd' : isQuote d = false) : c ≠ d := by
    rintro rfl
    rcases hc with h | h
    · rw [hd] at h
      cases h
    · rw [hd'] at h
      cases h
  have hdigit : c.isDigit = false := by
    rcases hc with h | h
    · exact not_isDigit_of_isAlpha h
    · rcases isQuote_cases h with rfl | rfl | rfl <;> rfl
  have hmagnitude : Binary64.readMagnitude? false (c :: rest) = none := by
    unfold Binary64.readMagnitude?
    split
    · rename_i h
      exact absurd h (map_toLower_ne hquote hmem (by decide))
    · rename_i h
      exact absurd h (map_toLower_ne hquote hmem (by decide))
    · rename_i h
      exact absurd h (map_toLower_ne hquote hmem (by decide))
    · have hpoint : c ≠ '.' := hne '.' rfl rfl
      simp [hdigit, hpoint]
  unfold Binary64.parse?
  split
  · rename_i h
    exact absurd (List.cons.inj h).1 (hne '-' rfl rfl)
  · rename_i h
    exact absurd (List.cons.inj h).1 (hne '+' rfl rfl)
  · exact hmagnitude

/-- The texts whose values are strings are those that start like strings. -/
theorem literalValue?_eq_string_iff {v : String} :
    literalValue? text = some (.string v) ↔ OpensString text ∧ v = String.ofList (stringContents text) := by
  unfold literalValue?
  constructor
  · intro h
    dsimp only at h
    have hsplit : text = text.takeWhile Char.isAlpha ++ text.dropWhile Char.isAlpha :=
      List.takeWhile_append_dropWhile.symm
    split at h
    · cases h
    · split at h
      · cases h
      · split at h
        · cases h
        · cases hrest : text.dropWhile Char.isAlpha with
          | nil =>
            rw [hrest] at h
            cases h
          | cons quote rest =>
            rw [hrest] at h hsplit
            dsimp only at h
            split at h
            · rename_i hquoted
              cases h
              obtain ⟨hquote, hlength⟩ := Bool.and_eq_true_iff.mp hquoted
              exact ⟨⟨of_decide_eq_true hlength, _, quote, rest, hsplit, List.all_eq_true.mp List.all_takeWhile,
                hquote⟩, rfl⟩
            · cases h
  · rintro ⟨⟨hlength, letters, quote, rest, rfl, hletters, hquote⟩, rfl⟩
    have hmem : quote ∈ letters ++ quote :: rest := by simp
    have hword (word : String) (hword : word.toList.all (fun c => !isQuote c) = true) :
        String.ofList (letters ++ quote :: rest) ≠ word := by
      rintro rfl
      rw [String.toList_ofList] at hword
      have := List.all_eq_true.mp hword quote hmem
      rw [hquote] at this
      cases this
    have hnumber : Binary64.parse? (letters ++ quote :: rest) = none := by
      cases letters with
      | nil => exact parse?_eq_none_of_quoted (.inr hquote) hquote hmem
      | cons c letters => exact parse?_eq_none_of_quoted (.inl (hletters c List.mem_cons_self)) hquote hmem
    have hquoted : (letters ++ quote :: rest).dropWhile Char.isAlpha = quote :: rest := by
      have halpha : quote.isAlpha = false := by rcases isQuote_cases hquote with rfl | rfl | rfl <;> rfl
      rw [List.dropWhile_append_of_pos hletters, List.dropWhile_cons_of_neg (by rw [halpha]; decide)]
    simp only [hnumber, hquoted, hquote, hlength, Bool.true_and, decide_true, if_true,
      decide_eq_false (hword "true" (by decide)), decide_eq_false (hword "True" (by decide)),
      decide_eq_false (hword "false" (by decide)), decide_eq_false (hword "False" (by decide)),
      Bool.or_false, Bool.false_eq_true, if_false]

/-! ## Strings of a line -/

/-- A string with its letters: it is closed, or nothing but its quotation mark. -/
def StringBody (text : List Char) : Prop :=
  ∃ letters quote rest, text = letters ++ quote :: rest ∧ (∀ c ∈ letters, isStringLetter c = true) ∧
    isQuote quote = true ∧ (rest = [] ∨ ∃ inner, rest = inner ++ [quote])

theorem isAlpha_of_isStringLetter {c : Char} (h : isStringLetter c = true) : c.isAlpha = true := by
  have halpha : ['f', 'F', 'r', 'R', 'b', 'B', 'u', 'U'].all Char.isAlpha = true := by decide
  exact List.all_eq_true.mp halpha c (List.contains_iff_mem.mp h)

theorem StringBody.opensString_iff (h : StringBody text) : OpensString text ↔ 2 ≤ byteLength text := by
  obtain ⟨letters, quote, rest, htext, hletters, hquote, -⟩ := h
  constructor
  · exact And.left
  · intro hlength
    exact ⟨hlength, letters, quote, rest, htext, fun c hc => isAlpha_of_isStringLetter (hletters c hc), hquote⟩

theorem ne_space_of_mem_opening {letters : List Char} {quote : Char} (hletters : ∀ c ∈ letters, isStringLetter c = true)
    (hquote : isQuote quote = true) : ∀ c ∈ letters ++ [quote], c ≠ ' ' := by
  intro c hc
  rcases List.mem_append.mp hc with hc | hc
  · exact Text.ne_space_of_not_blank (not_blank_of_isStringLetter (hletters c hc))
  · rw [List.mem_singleton.mp hc]
    exact Text.ne_space_of_not_blank (not_blank_of_isQuote hquote)

theorem trim_eq_of_ends {c d : Char} {rest front : List Char} (hfirst : text = c :: rest) (hlast : text = front ++ [d])
    (hc : Text.isBlank c = false) (hd : Text.isBlank d = false) : Text.trim text = text := by
  have hstart : Text.trimStart text = text := by
    rw [hfirst, Text.trimStart, List.dropWhile_cons_of_neg (by rw [hc]; decide)]
  rw [Text.trim, hstart, hlast, Text.trimEnd, Text.dropEndWhile, List.reverse_concat,
    List.dropWhile_cons_of_neg (by rw [hd]; decide), List.reverse_cons, List.reverse_reverse]

theorem StringBody.trim_eq (h : StringBody text) : Text.trim text = text := by
  obtain ⟨letters, quote, rest, rfl, hletters, hquote, hrest⟩ := h
  obtain ⟨c, tail, hfirst, hc⟩ : ∃ c tail, letters ++ quote :: rest = c :: tail ∧ Text.isBlank c = false := by
    cases letters with
    | nil => exact ⟨quote, rest, rfl, not_blank_of_isQuote hquote⟩
    | cons c letters => exact ⟨c, _, rfl, not_blank_of_isStringLetter (hletters c List.mem_cons_self)⟩
  obtain ⟨front, hlast⟩ : ∃ front, letters ++ quote :: rest = front ++ [quote] := by
    rcases hrest with rfl | ⟨inner, rfl⟩
    · exact ⟨letters, rfl⟩
    · exact ⟨letters ++ quote :: inner, by simp⟩
  exact trim_eq_of_ends hfirst hlast hc (not_blank_of_isQuote hquote)

/-- Parts of a line and of its mask that stand at the same place. -/
theorem Blanked.of_cut {w : List Char} (h : Blanked line mask) (hline : cut line s = .ok text)
    (hmask : cut mask s = .ok w) :
    Blanked text w := by
  obtain ⟨a, b, rfl, ha, hstop⟩ := cut_ok_iff.mp hline
  obtain ⟨x, y, rfl, hx, hstop'⟩ := cut_ok_iff.mp hmask
  obtain ⟨a', r, hr, ha', hrest⟩ := h.split
  obtain ⟨t, b', rfl, ht, -⟩ := hrest.split
  obtain ⟨-, hrest'⟩ := Text.split_eq hr (by rw [hx, ha'.byteLength_eq, ha])
  obtain ⟨rfl, -⟩ := Text.split_eq hrest' (by rw [ht.byteLength_eq]; omega)
  exact ht

theorem stringBody_of_mem {hash : Bool} (hs : s ∈ (maskLine hash line).strings) (hcut : cut line s = .ok text)
    (hend : ∀ a b, (maskLine hash line).mask = a ++ b → byteLength a = s.stop →
      ∀ c, a.getLast? = some c → Text.isBlank c = false) : StringBody text := by
  have hblanked := maskLine_blanked hash line
  cases maskLine_strings_text hash line s hs with
  | @closed a b quote hmask hopen hstop =>
    obtain ⟨⟨x, letters, k, rfl, hx, hletters⟩, hquote⟩ := hopen
    have hcut' : cut (maskLine hash line).mask s = .ok ((letters ++ quote :: List.replicate k ' ') ++ quote :: []) := by
      refine cut_ok_iff.mpr ⟨x, b, by rw [hmask]; simp, hx, ?_⟩
      rw [hstop, ← hx]
      simp only [Text.byteLength_append, Text.byteLength_cons, Text.byteLength_nil]
      omega
    obtain ⟨inside, rest, rfl, hinside, hrest⟩ :=
      (hblanked.of_cut hcut hcut').split_of_ne_space rfl (Text.ne_space_of_not_blank (not_blank_of_isQuote hquote))
    obtain rfl : rest = [] := Text.byteLength_eq_zero.mp hrest.byteLength_eq.symm
    obtain ⟨inner, rfl⟩ : ∃ inner, inside = (letters ++ [quote]) ++ inner :=
      Blanked.exists_append (b := List.replicate k ' ') (by simpa using hinside)
        (ne_space_of_mem_opening hletters hquote)
    exact ⟨letters, quote, inner ++ [quote], by simp, hletters, hquote, .inr ⟨inner, rfl⟩⟩
  | @unclosed quote hopen hstop =>
    obtain ⟨⟨x, letters, k, hmask, hx, hletters⟩, hquote⟩ := hopen
    have hk : k = 0 := by
      cases k with
      | zero => rfl
      | succ k =>
        have hlast : (maskLine hash line).mask.getLast? = some ' ' := by
          rw [hmask, List.replicate_succ', ← List.cons_append, ← List.append_assoc, ← List.append_assoc,
            List.getLast?_concat]
        exact absurd (hend _ [] (List.append_nil _).symm hstop.symm ' ' hlast) (by decide)
    subst hk
    have hcut' : cut (maskLine hash line).mask s = .ok (letters ++ [quote]) := by
      refine cut_ok_iff.mpr ⟨x, [], by rw [hmask]; simp, hx, ?_⟩
      rw [hstop, hmask, ← hx]
      simp
    obtain ⟨a, b, hline, ha, -⟩ := cut_ok_iff.mp hcut
    cases hcut.symm.trans (hblanked.cut_eq hcut' (ne_space_of_mem_opening hletters hquote) ⟨a, _, hline, ha⟩)
    exact ⟨letters, quote, [], rfl, hletters, hquote, .inl rfl⟩

end SourceAudit.Outline
