import SourceAudit.Proofs.Outline.Candidate
import SourceAudit.Proofs.Text.Blank

/-!
# A function comes first on its line

* `Yields x P` : if the computation `x` succeeds, its result satisfies `P`;
* `function_starts` : a function declaration starts with one of `declarationWords`, behind blanks;
* `trimStart_of_mask` : the first character of the code is the first of the line that is not blank;
* `StringText mask s`, `maskLine_strings_text` : a string is a few letters, a quotation mark, spaces and the quotation
  mark again, which can be missing at the end of the line;
* `IsName w`, `takes_dottedName_isName` : a name has no blanks, quotation marks, parentheses and commas;
* `Candidate.Follows mask c` : the candidate comes after a function declaration on the same line;
* `candidates_function` : all other candidates of a declaration do;
* `ordered_candidates` : so the candidates of a line become nodes in the order of their starts, a function first.
-/

namespace SourceAudit.Outline

open Regex
open Text (byteLength)

variable {line mask : List Char} {m : Match}

/-! ## Successful computations -/

/-- If the computation succeeds, its result satisfies a predicate. -/
def Yields {α : Type} (x : Except BuildError α) (P : α → Prop) : Prop := ∀ a, x = .ok a → P a

section Yields

variable {α β σ : Type} {P : α → Prop} {Q : β → Prop}

theorem Yields.mono {x : Except BuildError α} {P' : α → Prop} (h : Yields x P) (hP : ∀ a, P a → P' a) : Yields x P' :=
  fun a ha => hP a (h a ha)

theorem Yields.ok {a : α} (h : P a) : Yields (.ok a) P := by
  rintro _ ⟨⟩
  exact h

theorem Yields.bind {x : Except BuildError α} {f : α → Except BuildError β} (h : Yields x P)
    (hf : ∀ a, P a → Yields (f a) Q) : Yields (x >>= f) Q := by
  cases x with
  | error e => exact nofun
  | ok a => exact hf a (h a rfl)

/-- Of the first result only what the rest makes of it is known. -/
theorem Yields.after {x : Except BuildError α} {f : α → Except BuildError β} (hf : ∀ a, x = .ok a → Yields (f a) Q) :
    Yields (x >>= f) Q := Yields.bind (P := fun a => x = .ok a) (fun _ h => h) hf

theorem Gives.yields {x : Except BuildError α} (h : Gives x P) : Yields x P := by
  obtain ⟨a, rfl, ha⟩ := h
  exact .ok ha

theorem Yields.mapM {f : α → Except BuildError β} {xs : List α} (h : ∀ a ∈ xs, Yields (f a) Q) :
    Yields (xs.mapM f) fun bs => ∀ b ∈ bs, Q b := by
  induction xs with
  | nil => exact .ok nofun
  | cons a xs ih =>
    rw [List.mapM_cons]
    refine (h a List.mem_cons_self).bind fun b hb => ?_
    refine (ih fun a' ha => h a' (List.mem_cons_of_mem a ha)).bind fun bs hbs => ?_
    exact .ok (List.forall_mem_cons.mpr ⟨hb, hbs⟩)

end Yields

/-! ## The code of a line -/

theorem codeStart_eq {lead rest : List Char} {c : Char} (h : mask = lead ++ c :: rest)
    (hlead : ∀ d ∈ lead, Text.isBlank d = true) (hc : Text.isBlank c = false) :
    (codeSpan mask).start = byteLength lead := by
  have hts : Text.trimStart mask = c :: rest := by
    rw [h, Text.trimStart, List.dropWhile_append_of_pos hlead, List.dropWhile_cons_of_neg (by simp [hc])]
  show byteLength mask - byteLength (Text.trimStart mask) = byteLength lead
  rw [hts, h, Text.byteLength_append, Nat.add_sub_cancel]

theorem codeStart_le {a b : List Char} {c : Char} (h : mask = a ++ c :: b) (hc : Text.isBlank c = false) :
    (codeSpan mask).start ≤ byteLength a := by
  obtain ⟨lead, hmask, hlead, -⟩ := Text.trimStart_spec mask
  have hstart : (codeSpan mask).start = byteLength lead := by
    have := congrArg byteLength hmask
    rw [Text.byteLength_append] at this
    show byteLength mask - byteLength (Text.trimStart mask) = byteLength lead
    omega
  rw [hstart]
  refine Nat.le_of_not_lt fun hlt => ?_
  obtain ⟨tail, rfl, htail⟩ := Text.split_le (h.symm.trans hmask) (Nat.le_of_lt hlt)
  cases tail with
  | nil => simp at hlt
  | cons d tail =>
    obtain ⟨rfl, -⟩ := List.cons.inj htail
    simp [hlead c (by simp)] at hc

theorem codeStop_ge {a b : List Char} {c : Char} (h : mask = a ++ c :: b) (hc : Text.isBlank c = false) :
    byteLength a + c.utf8Size ≤ (codeSpan mask).stop := Text.byteLength_le_trimEnd h hc

/-- A path that takes characters, none of them blank, lies in the code. -/
theorem spells_inCode {p q : Cursor} (h : Spells (Text.isBlank · = false) p q) (hlt : p.offset < q.offset) :
    (codeSpan p.text).start ≤ p.offset ∧ q.offset ≤ (codeSpan p.text).stop := by
  obtain ⟨w, hp, hq, hw⟩ := h
  have hoffset : q.offset = p.offset + byteLength w := by
    rw [Cursor.offset, hq, Text.byteLength_append, Text.byteLength_reverse, Nat.add_comm, Cursor.offset]
  have hne : w ≠ [] := by
    rintro rfl
    simp [hoffset] at hlt
  constructor
  · obtain ⟨c, w', rfl⟩ := List.exists_cons_of_ne_nil hne
    have htext : p.text = p.left.reverse ++ c :: (w' ++ q.right) := by rw [Cursor.text, hp, List.cons_append]
    have := codeStart_le htext (hw c List.mem_cons_self)
    rwa [Text.byteLength_reverse] at this
  · obtain ⟨w', c, rfl⟩ := (List.eq_nil_or_concat w).resolve_left hne
    rw [List.concat_eq_append] at hp hw hoffset
    have htext : p.text = (p.left.reverse ++ w') ++ c :: q.right := by
      rw [Cursor.text, hp]
      simp
    have := codeStop_ge htext (hw c (by simp))
    rw [hoffset]
    simp only [Text.byteLength_append, Text.byteLength_reverse, Text.byteLength_cons, Text.byteLength_nil] at this ⊢
    rw [Cursor.offset]
    omega

/-! ## Declarations -/

/-- The words that a function declaration can start with. -/
def declarationWords : List (List Char) :=
  ["export", "default", "pub", "async", "def", "function", "fn", "func"].map String.toList

def Declares (p : Cursor) : Prop := ∃ w ∈ declarationWords, ∃ rest, p.right = w ++ rest

theorem declares_word {s : String} {p q : Cursor} (hs : s.toList ∈ declarationWords) (h : Takes (word s) p q) :
    Declares p :=
  ⟨s.toList, hs, q.right, takes_literal h⟩

/-- A word that may stand before a declaration either does, or the declaration starts without it. -/
theorem declares_leading {r : Regex} {p q : Cursor} (h : Takes (leading r) p q) (hr : ∀ n, Takes r p n → Declares p)
    (hq : Declares q) : Declares p := by
  rcases takes_opt h with rfl | ⟨n, hn, -⟩
  · exact hq
  · exact hr n hn

theorem function_starts (h : Matches functionShape mask m) :
    ∃ lead w rest, mask = lead ++ (w ++ rest) ∧ (∀ c ∈ lead, Text.isBlank c = true) ∧ w ∈ declarationWords := by
  obtain ⟨p, q, rfl, -, ht, rfl⟩ := h
  obtain ⟨p₀, ⟨hstart, rfl⟩, p₁, hblanks, p₂, hexport, p₃, hdefault, p₄, hpub, p₅, hasync, p₆, hkeyword, -⟩ := ht
  have hleft : p₀.left = [] := by simpa [Look.holds] using hstart
  obtain ⟨lead, hlead, hright, -⟩ := takes_rep_set hblanks
  have hdeclares : Declares p₁ := by
    refine declares_leading hexport (fun n => declares_word (by decide)) ?_
    refine declares_leading hdefault (fun n => declares_word (by decide)) ?_
    refine declares_leading hpub (fun n ⟨_, h, _⟩ => declares_word (by decide) h) ?_
    refine declares_leading hasync (fun n => declares_word (by decide)) ?_
    rcases hkeyword with h | ⟨_, h, _⟩ | h | h
    · exact declares_word (by decide) h
    · exact declares_word (by decide) h
    · exact declares_word (by decide) h
    · exact declares_word (by decide) h
  obtain ⟨w, hw, rest, hrest⟩ := hdeclares
  refine ⟨lead, w, rest, ?_, hlead, hw⟩
  rw [Cursor.text, hleft, hright, hrest, List.reverse_nil, List.nil_append]

theorem declarationWords_first {w : List Char} (h : w ∈ declarationWords) :
    ∃ c rest, w = c :: rest ∧ Text.isBlank c = false ∧ closesBracket c = false := by
  have hfirst : ∀ w ∈ declarationWords, w.head?.any (fun c => !Text.isBlank c && !closesBracket c) = true := by decide
  have := hfirst w h
  cases w with
  | nil => cases this
  | cons c rest => exact ⟨c, rest, rfl, by simpa using this⟩

/-- Letters of a string that start a declaration word do not come before a quotation mark. -/
theorem declarationWords_not_quoted {w : List Char} (h : w ∈ declarationWords) :
    ∃ c rest, w.dropWhile isStringLetter = c :: rest ∧ isQuote c = false := by
  have hfirst : ∀ w ∈ declarationWords, (w.dropWhile isStringLetter).head?.any (fun c => !isQuote c) = true := by decide
  have := hfirst w h
  cases hd : w.dropWhile isStringLetter with
  | nil => simp [hd] at this
  | cons c rest => exact ⟨c, rest, rfl, by simpa [hd] using this⟩

/-! ## First characters -/

theorem trimStart_spaces (cs : List Char) : Text.trimStart (spaces cs) = [] := by
  obtain ⟨lead, hcs, -, hfirst⟩ := Text.trimStart_spec (spaces cs)
  cases hts : Text.trimStart (spaces cs) with
  | nil => rfl
  | cons c rest =>
    have hc : c ∈ spaces cs := by
      rw [hcs, hts]
      simp
    have := hfirst c rest hts
    rw [eq_space_of_mem_spaces hc] at this
    exact absurd this (by decide)

theorem trimStart_cons_of_not_blank {c : Char} (h : Text.isBlank c = false) (cs : List Char) :
    Text.trimStart (c :: cs) = c :: cs := List.dropWhile_cons_of_neg (by simp [h])

theorem trimStart_of_mask {hash : Bool} {before : List Char} {offset : Nat} {cs rest : List Char} {c : Char}
    (h : Text.trimStart (maskFrom hash .code before offset cs).mask = c :: rest) :
    ∃ tail, Text.trimStart cs = c :: tail := by
  induction cs generalizing before offset with
  | nil => cases h
  | cons d cs ih =>
    rw [maskFrom] at h
    split at h
    · rename_i hq
      have hd := not_blank_of_isQuote hq
      rw [MaskedLine.after, List.singleton_append, trimStart_cons_of_not_blank hd] at h
      obtain ⟨rfl, -⟩ := List.cons.inj h
      exact ⟨cs, trimStart_cons_of_not_blank hd cs⟩
    · split at h
      · rw [trimStart_spaces] at h
        cases h
      · rw [MaskedLine.after, List.singleton_append] at h
        cases hd : Text.isBlank d with
        | false =>
          rw [trimStart_cons_of_not_blank hd] at h
          obtain ⟨rfl, -⟩ := List.cons.inj h
          exact ⟨cs, trimStart_cons_of_not_blank hd cs⟩
        | true =>
          rw [Text.trimStart, List.dropWhile_cons_of_pos hd] at h ⊢
          exact ih h

theorem function_first {hash : Bool} (h : Matches functionShape (maskLine hash line).mask m) :
    ∃ c tail, Text.trimStart line = c :: tail ∧ closesBracket c = false := by
  obtain ⟨lead, w, rest, hmask, hlead, hw⟩ := function_starts h
  obtain ⟨c, w', rfl, hblank, hclose⟩ := declarationWords_first hw
  have hts : Text.trimStart (maskLine hash line).mask = c :: (w' ++ rest) := by
    rw [hmask, Text.trimStart, List.dropWhile_append_of_pos hlead, List.cons_append,
      List.dropWhile_cons_of_neg (by simp [hblank])]
  obtain ⟨tail, htail⟩ := trimStart_of_mask hts
  exact ⟨c, tail, htail, hclose⟩

/-! ## Strings -/

/-- A string starts at an offset: letters of a string and a quotation mark follow. -/
def StringAt (mask : List Char) (n : Nat) : Prop :=
  ∃ a lead quote b, mask = a ++ (lead ++ quote :: b) ∧ byteLength a = n ∧ (∀ c ∈ lead, isStringLetter c = true) ∧
    isQuote quote = true

/-- A mask ends in a string that is not closed: letters, a quotation mark and spaces. -/
structure OpenString (mask : List Char) (start : Nat) (quote : Char) : Prop where
  text : ∃ a letters k, mask = a ++ (letters ++ quote :: List.replicate k ' ') ∧ byteLength a = start ∧
    ∀ c ∈ letters, isStringLetter c = true
  quoted : isQuote quote = true

/-- The text of a string in a mask. Its quotation mark closes it, or it goes on to the end of the mask. -/
inductive StringText (mask : List Char) (s : Span) : Prop where
  | closed {a b : List Char} {quote : Char} : mask = a ++ quote :: b → OpenString a s.start quote →
      s.stop = byteLength a + quote.utf8Size → StringText mask s
  | unclosed {quote : Char} : OpenString mask s.start quote → s.stop = byteLength mask → StringText mask s

theorem StringText.stringAt {s : Span} (h : StringText mask s) : StringAt mask s.start := by
  cases h with
  | closed hmask hopen =>
    obtain ⟨⟨a, letters, k, rfl, ha, hletters⟩, hq⟩ := hopen
    exact ⟨a, letters, _, _, by rw [hmask, List.append_assoc, List.append_assoc, List.cons_append], ha, hletters, hq⟩
  | unclosed hopen =>
    obtain ⟨⟨a, letters, k, hmask, ha, hletters⟩, hq⟩ := hopen
    exact ⟨a, letters, _, _, hmask, ha, hletters, hq⟩

/-- What was read and what was masked of it, both backwards, agree up to a quotation mark or the start of the line. -/
def Agrees (before masked : List Char) : Prop :=
  ∃ recent old old', before = recent ++ old ∧ masked = recent ++ old' ∧ ∀ c rest, old = c :: rest → isQuote c = true

theorem Agrees.cons {before masked : List Char} (h : Agrees before masked) (c : Char) :
    Agrees (c :: before) (c :: masked) := by
  obtain ⟨recent, old, old', rfl, rfl, hold⟩ := h
  exact ⟨c :: recent, old, old', rfl, rfl, hold⟩

theorem agrees_quote {c : Char} (h : isQuote c = true) (before masked : List Char) :
    Agrees (c :: before) (c :: masked) :=
  ⟨[], c :: before, c :: masked, rfl, rfl, by simpa using h⟩

theorem not_isStringLetter_of_isQuote {c : Char} (h : isQuote c = true) : isStringLetter c = false := by
  simp only [isQuote, Bool.or_eq_true, beq_iff_eq] at h
  obtain (rfl | rfl) | rfl := h <;> decide

/-- The letters before a quotation mark that belong to its string show in the mask. -/
theorem openString_lead {before masked : List Char} {c : Char} (h : Agrees before masked) (hc : isQuote c = true) :
    OpenString (masked.reverse ++ [c]) (byteLength masked - leadLength before) c := by
  obtain ⟨recent, old, old', rfl, rfl, hold⟩ := h
  obtain ⟨lead, rest, hb, hlead, hletters⟩ := exists_lead (recent ++ old)
  obtain ⟨more, rfl⟩ : lead <+: recent := by
    rcases List.append_eq_append_iff.mp hb with ⟨e, he, hold'⟩ | ⟨e, he, -⟩
    · cases e with
      | nil => exact ⟨[], by simpa using he⟩
      | cons d e =>
        have hd := hletters d (by simp [he])
        rw [not_isStringLetter_of_isQuote (hold d (e ++ rest) hold')] at hd
        cases hd
    · exact ⟨e, he.symm⟩
  refine ⟨⟨(more ++ old').reverse, lead.reverse, 0, by simp, ?_, by simpa using hletters⟩, hc⟩
  simp only [Text.byteLength_append, Text.byteLength_reverse]
  omega

theorem OpenString.append_spaces {start : Nat} {quote : Char} (h : OpenString mask start quote) (cs : List Char) :
    OpenString (mask ++ spaces cs) start quote := by
  obtain ⟨⟨a, letters, k, rfl, ha, hletters⟩, hq⟩ := h
  refine ⟨⟨a, letters, k + byteLength cs, ?_, ha, hletters⟩, hq⟩
  rw [spaces, ← List.replicate_append_replicate]
  simp

/-- Outside strings, the mask agrees with the line so far; inside, the string has started. -/
def ScanState.Shown (before masked : List Char) : ScanState → Prop
  | .code => Agrees before masked
  | .string quote start _ => OpenString masked.reverse start quote

/-- The strings of a masked rest of a line show in it; `masked` is the mask of what precedes it, backwards. -/
def MaskedLine.Quotes (masked : List Char) (m : MaskedLine) : Prop :=
  ∀ s ∈ m.strings, StringText (masked.reverse ++ m.mask) s

theorem MaskedLine.Quotes.after {masked shown : List Char} {m : MaskedLine} (h : m.Quotes (shown.reverse ++ masked)) :
    (m.after shown).Quotes masked := by
  intro s hs
  have := h s hs
  rwa [List.reverse_append, List.reverse_reverse, List.append_assoc] at this

theorem maskFrom_quotes (hash : Bool) (state : ScanState) (before : List Char) (offset : Nat) (cs masked : List Char)
    (ho : offset = byteLength masked) (hs : state.Shown before masked) :
    (maskFrom hash state before offset cs).Quotes masked := by
  -- a step shows as many bytes as it reads
  have hnext {shown masked : List Char} {c : Char} {offset : Nat} (ho : offset = byteLength masked)
      (hc : byteLength shown = byteLength [c]) : offset + c.utf8Size = byteLength (shown.reverse ++ masked) := by
    rw [Text.byteLength_append, Text.byteLength_reverse, hc, ho, Text.byteLength_cons, Text.byteLength_nil]
    omega
  -- a step inside a string shows spaces
  have hkeep {masked : List Char} {quote c : Char} {start : Nat} (h : OpenString masked.reverse start quote) :
      OpenString ((spaces [c]).reverse ++ masked).reverse start quote := by
    rw [List.reverse_append, List.reverse_reverse]
    exact h.append_spaces [c]
  fun_induction maskFrom hash state before offset cs generalizing masked with
  | case1 =>
    intro s h
    cases h
  | case2 before quote start escaped offset =>
    intro s h
    obtain rfl := List.mem_singleton.mp h
    show StringText (masked.reverse ++ []) _
    rw [List.append_nil]
    exact .unclosed hs (by rw [Text.byteLength_reverse]; exact ho)
  | case3 before offset c cs hq ih =>
    refine (ih _ (hnext ho rfl) ?_).after
    show OpenString (c :: masked).reverse (offset - leadLength before) c
    rw [List.reverse_cons, ho]
    exact openString_lead hs hq
  | case4 before offset c cs hq hc =>
    intro s h
    cases h
  | case5 before offset c cs hq hc ih => exact (ih _ (hnext ho rfl) (hs.cons c)).after
  | case6 quote start before offset c cs next ih => exact (ih _ (hnext ho (byteLength_spaces [c])) (hkeep hs)).after
  | case7 quote start escaped before offset c cs next he hc ih =>
    exact (ih _ (hnext ho (byteLength_spaces [c])) (hkeep hs)).after
  | case8 quote start escaped before offset c cs next he hc hq ih =>
    obtain rfl := eq_of_beq hq
    intro s h
    rcases List.mem_cons.mp h with rfl | h
    · exact .closed rfl hs (by rw [Text.byteLength_reverse, ← ho])
    · exact (ih _ (hnext ho rfl) (agrees_quote hs.quoted before masked)).after s h
  | case9 quote start escaped before offset c cs next he hc hq ih =>
    exact (ih _ (hnext ho (byteLength_spaces [c])) (hkeep hs)).after

theorem maskLine_strings_text (hash : Bool) (line : List Char) :
    ∀ s ∈ (maskLine hash line).strings, StringText (maskLine hash line).mask s :=
  maskFrom_quotes hash .code [] 0 line [] rfl ⟨[], [], [], rfl, rfl, nofun⟩

theorem not_blank_of_isStringLetter {c : Char} (h : isStringLetter c = true) : Text.isBlank c = false := by
  refine Bool.eq_false_iff.mpr fun hb => ?_
  have := Text.eq_false_of_isBlank (p := isStringLetter) (by decide) hb
  rw [h] at this
  cases this

theorem codeStart_le_of_stringAt {n : Nat} (h : StringAt mask n) : (codeSpan mask).start ≤ n := by
  obtain ⟨a, letters, quote, b, ha, rfl, hletters, hq⟩ := h
  cases letters with
  | nil => exact codeStart_le ha (not_blank_of_isQuote hq)
  | cons c letters => exact codeStart_le ha (not_blank_of_isStringLetter (hletters c List.mem_cons_self))

theorem codeStart_lt_of_stringAt {n : Nat} (hs : StringAt mask n) (h : Matches functionShape mask m) :
    (codeSpan mask).start < n := by
  refine Nat.lt_of_le_of_ne (codeStart_le_of_stringAt hs) fun he => ?_
  obtain ⟨a, letters, quote, b, ha, rfl, hletters, hq⟩ := hs
  obtain ⟨lead, w, rest, hmask, hlead, hw⟩ := function_starts h
  obtain ⟨c, w', hwc, hblank, -⟩ := declarationWords_first hw
  -- the blanks before the declaration are what comes before the string
  rw [codeStart_eq (hmask.trans (by rw [hwc]; rfl)) hlead hblank] at he
  obtain ⟨-, hrest⟩ := Text.split_eq (hmask.symm.trans ha) he
  obtain ⟨d, w'', hd, hnq⟩ := declarationWords_not_quoted hw
  have hdrop := congrArg (List.dropWhile isStringLetter) hrest
  rw [List.dropWhile_append_of_pos hletters, List.dropWhile_cons_of_neg (by simp [not_isStringLetter_of_isQuote hq]),
    List.dropWhile_append, hd] at hdrop
  obtain ⟨rfl, -⟩ := List.cons.inj hdrop
  rw [hq] at hnq
  cases hnq

/-! ## Names -/

/-- Whether a character is no blank, no quotation mark, no parenthesis and no comma. -/
def isInert (c : Char) : Bool := !(Text.isBlank c || isQuote c || c == '(' || c == ')' || c == ',')

/-- A text of such characters only, of which there is at least one. -/
structure IsName (w : List Char) : Prop where
  ne_nil : w ≠ []
  inert : ∀ c ∈ w, isInert c = true

theorem not_blank_of_isInert {c : Char} (h : isInert c = true) : Text.isBlank c = false := by
  simp only [isInert, Bool.not_eq_true', Bool.or_eq_false_iff] at h
  exact h.1.1.1.1

theorem not_isQuote_of_isInert {c : Char} (h : isInert c = true) : isQuote c = false := by
  simp only [isInert, Bool.not_eq_true', Bool.or_eq_false_iff] at h
  exact h.1.1.1.2

theorem takes_dottedName_lt {p q : Cursor} (h : Takes dottedName p q) : p.offset < q.offset := by
  obtain ⟨n, ⟨_, ⟨c, rest, -, -, rfl⟩, hn⟩, hq⟩ := h
  have := Nat.le_trans hn.offset_le hq.offset_le
  have hpos := c.utf8Size_pos
  simp only [Cursor.offset, Text.byteLength_cons] at this ⊢
  omega

theorem takes_dottedName_isName {p q : Cursor} (h : Takes dottedName p q) :
    ∃ w, p.right = w ++ q.right ∧ q.left = w.reverse ++ p.left ∧ IsName w := by
  have hblank : ∀ chars ∈ dottedName.sets, ∀ n ∈ Text.blankCodes, chars.mem (Char.ofNat n) = false := by decide +kernel
  have hmark : ∀ chars ∈ dottedName.sets,
      ['\x22', '\x27', '\x60', '(', ')', ','].all (fun c => !chars.mem c) = true := by
    decide +kernel
  obtain ⟨w, hp, hq, hw⟩ := h.alphabet (P := fun c => isInert c = true) fun chars hchars c hc => by
    cases hb : Text.isBlank c with
    | true =>
      rw [Text.eq_false_of_isBlank (hblank chars hchars) hb] at hc
      cases hc
    | false =>
      have hne (d : Char) (hd : d ∈ ['\x22', '\x27', '\x60', '(', ')', ',']) : (c == d) = false := by
        refine beq_eq_false_iff_ne.mpr ?_
        rintro rfl
        simpa [hc] using List.all_eq_true.mp (hmark chars hchars) c hd
      simp [isInert, isQuote, hb, hne]
  refine ⟨w, hp, hq, ?_, hw⟩
  rintro rfl
  have := takes_dottedName_lt h
  rw [Cursor.offset, Cursor.offset, hq] at this
  exact Nat.lt_irrefl _ this

theorem takes_dottedName_inCode {p q : Cursor} (h : Takes dottedName p q) :
    (codeSpan p.text).start ≤ p.offset ∧ q.offset ≤ (codeSpan p.text).stop := by
  obtain ⟨w, hp, hq, hw⟩ := takes_dottedName_isName h
  exact spells_inCode ⟨w, hp, hq, fun c hc => not_blank_of_isInert (hw.inert c hc)⟩ (takes_dottedName_lt h)

/-! ## Candidates behind a declaration -/

/-- The candidate comes after a function declaration on the same line. -/
def Candidate.Follows (mask : List Char) (c : Candidate) : Prop :=
  0 < c.kind.rank ∧ (codeSpan mask).start ≤ c.span.start ∧
    (c.span.start = (codeSpan mask).start → c.span.stop ≤ (codeSpan mask).stop)

theorem takes_memberShape {p q : Cursor} (h : Takes memberShape p q) : Takes dottedName p q := by
  obtain ⟨m, hm, k, hk, hmax, hq⟩ := h
  exact ⟨m, hm, k, .inl (Nat.zero_le k), nofun, hq⟩

theorem memberCandidate_follows (h : Matches memberShape mask m) :
    Yields (memberCandidate mask m) (·.Follows mask) := by
  obtain ⟨p, q, rfl, -, ht, rfl⟩ := h
  obtain ⟨hstart, hstop⟩ := takes_dottedName_inCode (takes_memberShape ht)
  exact .after fun name _ => .ok ⟨Nat.succ_pos _, hstart, fun _ => hstop⟩

theorem identifierCandidate?_follows {s : Span} (hstart : (codeSpan mask).start ≤ s.start)
    (hstop : s.stop ≤ (codeSpan mask).stop) :
    Yields (identifierCandidate? mask s) fun o => ∀ c, o = some c → c.Follows mask := by
  refine .after fun text _ => ?_
  dsimp only
  split
  · refine .ok fun c hc => ?_
    cases hc
    exact ⟨Nat.succ_pos _, hstart, fun _ => hstop⟩
  · exact .ok nofun

theorem callCandidates_follows (declared : Option Nat) (h : Matches callShape mask m) :
    Yields (callCandidates mask declared m) fun cs => ∀ c ∈ cs, c.Follows mask := by
  obtain ⟨a, b, callee, hmask, hstop, hcallee, hbefore, hcalled⟩ := call_match h
  have hle := Nat.le_trans hcalled.start_le_stop hbefore
  obtain ⟨p, q, rfl, hoffset, -, hname⟩ := hcalled
  have hopening : m.stop - 1 = byteLength a := by omega
  have hstart := (takes_dottedName_inCode hname).1
  rw [hoffset] at hstart
  simp only [callCandidates, hcallee, hopening]
  refine .after fun name _ => ?_
  split
  · exact .ok (List.forall_mem_nil _)
  · refine (closingParen_gives hmask).yields.bind fun close hclose => ?_
    -- the call ends with the code of the line or before
    have hclosed : ∀ n, close = some n → n + 1 ≤ (codeSpan p.text).stop := by
      intro n hn
      obtain ⟨-, a', b', hmask', rfl⟩ := hclose n hn
      exact codeStop_ge hmask' (by decide)
    have harguments := @splitArguments_within p.text ⟨byteLength a + 1, close.getD (codeSpan p.text).stop⟩
    have hend : close.getD (codeSpan p.text).stop ≤ (codeSpan p.text).stop := by
      cases close with
      | none => exact Nat.le_refl _
      | some n => exact Nat.le_of_succ_le (hclosed n rfl)
    refine (Yields.mapM fun s hs => identifierCandidate?_follows ?_ ?_).bind fun identifiers hids => .ok fun c hc => ?_
    · exact Nat.le_trans (Nat.le_trans hstart hle) (Nat.le_of_succ_le (harguments s hs).1)
    · exact Nat.le_trans (harguments s hs).2 hend
    · rcases List.mem_append.mp hc with hc | hc
      · obtain ⟨o, ho, hc⟩ := List.mem_filterMap.mp hc
        exact hids o ho c hc
      · obtain rfl := List.mem_singleton.mp hc
        refine ⟨Nat.succ_pos _, hstart, fun _ => ?_⟩
        cases close with
        | none => exact Nat.le_refl _
        | some n => exact hclosed n rfl

/-! ## Candidates of a line -/

theorem statement?_function (h : functionShape.find? mask = some m) :
    Yields (statement? line mask) fun o => ∃ f, o = some f ∧ f.kind = .functionDeclaration ∧
      f.span = codeSpan mask := by
  simp only [statement?, h]
  exact .after fun name _ => .ok ⟨_, rfl, rfl, rfl⟩

theorem assignmentCandidate_kind {target value : Span} :
    Yields (assignmentCandidate line mask target value) (·.kind = .assignment) :=
  .after fun _ _ => .after fun _ _ => .after fun _ _ => .ok rfl

theorem statement?_other (h : functionShape.find? mask = none) :
    Yields (statement? line mask) fun o => ∀ c, o = some c → c.kind ≠ .functionDeclaration := by
  simp only [statement?, h]
  split
  · refine .after fun name _ => .ok fun c hc => ?_
    cases hc
    simp
  · split
    · split
      · refine assignmentCandidate_kind.bind fun c hk => .ok fun c' hc' => ?_
        cases hc'
        simp [hk]
      · exact .ok (by simp)
    · exact .ok (by simp)

theorem candidates_parts {masked : MaskedLine} :
    Yields (candidates line masked) fun cs => ∃ statement others, statement? line masked.mask = .ok statement ∧
      cs = statement.toList ++ others ∧
      ∀ c ∈ others, c.Follows masked.mask ∨ c.kind = .stringLiteral ∧ c.span ∈ masked.strings := by
  refine .after fun statement hstatement => ?_
  refine (Yields.mapM fun m hm => callCandidates_follows _ (findAll_matches hm)).bind fun calls hcalls => ?_
  refine (Yields.mapM fun m hm => memberCandidate_follows (findAll_matches hm)).bind fun members hmembers => ?_
  have hstring : ∀ s ∈ masked.strings, Yields (stringCandidate line s) fun c => c.kind = .stringLiteral ∧
      c.span ∈ masked.strings :=
    fun s hs => .after fun text _ => .ok ⟨rfl, hs⟩
  refine (Yields.mapM hstring).bind fun strings hstrings => ?_
  refine .ok ⟨statement, calls.flatten ++ members ++ strings, hstatement, by simp only [List.append_assoc],
    fun c hc => ?_⟩
  simp only [List.mem_append] at hc
  rcases hc with (hc | hc) | hc
  · obtain ⟨cs, hcs, hc⟩ := List.mem_flatten.mp hc
    exact .inl (hcalls cs hcs c hc)
  · exact .inl (hmembers c hc)
  · exact .inr (hstrings c hc)

theorem Candidate.Follows.not_function {c : Candidate} (h : c.Follows mask) : c.kind ≠ .functionDeclaration := by
  intro hk
  have := h.1
  rw [hk] at this
  cases this

theorem find?_of_function {masked : MaskedLine} {cs : List Candidate} {c : Candidate}
    (h : candidates line masked = .ok cs) (hc : c ∈ cs) (hk : c.kind = .functionDeclaration) :
    ∃ m, functionShape.find? masked.mask = some m := by
  obtain ⟨statement, others, hstatement, rfl, hothers⟩ := candidates_parts cs h
  refine Option.ne_none_iff_exists'.mp fun hf => ?_
  rcases List.mem_append.mp hc with hc | hc
  · exact statement?_other hf statement hstatement c (Option.mem_toList.mp hc) hk
  · rcases hothers c hc with hfollows | ⟨hstring, -⟩
    · exact hfollows.not_function hk
    · rw [hk] at hstring
      cases hstring

theorem candidates_function {hash : Bool} {cs : List Candidate}
    (hf : functionShape.find? (maskLine hash line).mask = some m) (h : candidates line (maskLine hash line) = .ok cs) :
    ∃ f others, cs = f :: others ∧ f.kind = .functionDeclaration ∧ f.span = codeSpan (maskLine hash line).mask ∧
      ∀ c ∈ others, c.Follows (maskLine hash line).mask := by
  obtain ⟨statement, others, hstatement, rfl, hothers⟩ := candidates_parts cs h
  obtain ⟨f, rfl, hk, hspan⟩ := statement?_function hf statement hstatement
  refine ⟨f, others, rfl, hk, hspan, fun c hc => ?_⟩
  rcases hothers c hc with hfollows | ⟨hstring, hmem⟩
  · exact hfollows
  · have hlt := codeStart_lt_of_stringAt (maskLine_strings_text hash line c.span hmem).stringAt (find?_matches hf)
    refine ⟨?_, Nat.le_of_lt hlt, fun he => absurd he (Nat.ne_of_gt hlt)⟩
    rw [hstring]
    exact Nat.succ_pos _

/-! ## Order -/

theorem Candidate.before_iff {a b : Candidate} : a.before b = true ↔ a.span.start < b.span.start ∨
    a.span.start = b.span.start ∧
      (b.span.stop < a.span.stop ∨ a.span.stop = b.span.stop ∧ a.kind.rank ≤ b.kind.rank) := by
  simp [before]

theorem Candidate.before_trans (a b c : Candidate) (hab : a.before b = true) (hbc : b.before c = true) :
    a.before c = true := by
  rw [before_iff] at *
  omega

theorem Candidate.before_total (a b : Candidate) : (a.before b || b.before a) = true := by
  rw [Bool.or_eq_true, before_iff, before_iff]
  omega

/-- A function comes before everything else on its line. -/
theorem before_of_follows {f c : Candidate} (hf : f.kind = .functionDeclaration) (hs : f.span = codeSpan mask)
    (hc : c.Follows mask) : f.before c = true := by
  obtain ⟨hrank, hstart, hstop⟩ := hc
  rw [Candidate.before_iff, hs, hf]
  have : NodeKind.functionDeclaration.rank = 0 := rfl
  omega

/-- In the order of their nodes, the candidates of a line start one after the other, and none but the first is a
function. -/
theorem ordered_candidates {hash : Bool} {cs : List Candidate} (h : candidates line (maskLine hash line) = .ok cs) :
    (cs.mergeSort Candidate.before).Pairwise fun a b =>
      a.span.start ≤ b.span.start ∧ b.kind ≠ .functionDeclaration := by
  have hsorted := List.pairwise_mergeSort Candidate.before_trans Candidate.before_total cs
  have hstart : (cs.mergeSort Candidate.before).Pairwise fun a b => a.span.start ≤ b.span.start := by
    refine hsorted.imp fun hab => ?_
    rw [Candidate.before_iff] at hab
    omega
  by_cases hfun : ∃ c ∈ cs, c.kind = .functionDeclaration
  · obtain ⟨c, hc, hk⟩ := hfun
    obtain ⟨m, hf⟩ := find?_of_function h hc hk
    obtain ⟨f, others, rfl, hk, hspan, hothers⟩ := candidates_function hf h
    -- nothing is put before the function
    obtain ⟨first, rest, hsort, hrest, hfirst⟩ :=
      List.mergeSort_cons Candidate.before_trans Candidate.before_total f others
    have hmem : ∀ c ∈ first ++ rest, c.Follows (maskLine hash line).mask := fun c hc =>
      hothers c ((List.mergeSort_perm others _).mem_iff.mp (hrest ▸ hc))
    obtain rfl : first = [] := List.eq_nil_iff_forall_not_mem.mpr fun c hc => by
      simpa [before_of_follows hk hspan (hmem c (List.mem_append_left rest hc))] using hfirst c hc
    rw [hsort, List.nil_append, List.pairwise_cons] at hstart ⊢
    refine ⟨fun c hc => ⟨hstart.1 c hc, (hmem c hc).not_function⟩, ?_⟩
    exact hstart.2.imp_of_mem fun _ hb hab => ⟨hab, (hmem _ hb).not_function⟩
  · refine hstart.imp_of_mem fun _ hb hab => ⟨hab, fun hk => hfun ⟨_, ?_, hk⟩⟩
    exact (List.mergeSort_perm cs _).mem_iff.mp hb

end SourceAudit.Outline
