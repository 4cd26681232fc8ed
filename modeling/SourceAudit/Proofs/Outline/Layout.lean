import SourceAudit.Proofs.Outline.Declaration

/-!
# The strings and the comment of a line

* `Text.bytes cs` : the UTF-8 form of a text;
* `Escapes cs` : an odd number of backslashes stands at the end of `cs`, so what follows is escaped;
* `Literal`, `Literal.StandsIn line l` : a string with its letters and quotation marks, and its place in a line;
* `maskFrom_string`, `maskFrom_code` : how masking goes through a string, and through the code up to a string or a
  comment;
* `Shows hidden offset cs mask` : `mask` has a space for each hidden byte of `cs`, and the other bytes of `cs`;
* `Layout`, `exists_layout` : where the strings and the comment are that masking finds, and what it shows;
* `mask_faithful` : a mask lines up with its line, and hides the insides of strings and the comment, and nothing else.
-/

namespace SourceAudit

/-! ## Bytes -/

namespace Text

def bytes (cs : List Char) : List UInt8 := cs.flatMap String.utf8EncodeChar

@[simp] theorem bytes_append (a b : List Char) : bytes (a ++ b) = bytes a ++ bytes b := List.flatMap_append

@[simp] theorem length_bytes (cs : List Char) : (bytes cs).length = byteLength cs := by
  induction cs with
  | nil => rfl
  | cons c cs ih =>
    rw [← List.singleton_append, bytes_append, List.length_append, ih, byteLength_append]
    simp [bytes, String.length_utf8EncodeChar]

end Text

namespace Outline

open Text (byteLength bytes IsBoundary)

theorem bytes_spaces (cs : List Char) : bytes (spaces cs) = List.replicate (byteLength cs) 32 := by
  have hspace : String.utf8EncodeChar ' ' = [32] := by decide
  rw [bytes, spaces]
  induction byteLength cs with
  | zero => rfl
  | succ n ih => rw [List.replicate_succ, List.flatMap_cons, ih, hspace, List.replicate_succ, List.singleton_append]

/-! ## Escapes -/

/-- An odd number of backslashes stands at the end of the text. -/
def Escapes (cs : List Char) : Prop := (cs.reverse.takeWhile (· == '\\')).length % 2 = 1

instance (cs : List Char) : Decidable (Escapes cs) := inferInstanceAs (Decidable (_ = _))

theorem escapes_concat_backslash (cs : List Char) : Escapes (cs ++ ['\\']) ↔ ¬Escapes cs := by
  unfold Escapes
  rw [List.reverse_concat, List.takeWhile_cons_of_pos (by decide), List.length_cons]
  omega

theorem not_escapes_concat {c : Char} (hc : c ≠ '\\') (cs : List Char) : ¬Escapes (cs ++ [c]) := by
  unfold Escapes
  rw [List.reverse_concat, List.takeWhile_cons_of_neg (by simpa using hc)]
  decide

/-- Behind `read`, every occurrence of the quotation mark in a text is escaped. -/
def AllEscaped (quote : Char) (read cs : List Char) : Prop := ∀ a b, cs = a ++ quote :: b → Escapes (read ++ a)

theorem allEscaped_nil (quote : Char) (read : List Char) : AllEscaped quote read [] := by
  intro a b h
  simp at h

theorem AllEscaped.cons {quote c : Char} {read cs : List Char} (h : AllEscaped quote (read ++ [c]) cs)
    (hc : c = quote → Escapes read) : AllEscaped quote read (c :: cs) := by
  intro a b hsplit
  rcases List.cons_eq_append_iff.mp hsplit with ⟨rfl, heq⟩ | ⟨a, rfl, htail⟩
  · rw [List.append_nil]
    exact hc (List.cons.inj heq).1.symm
  · rw [List.append_cons]
    exact h a b htail

/-! ## Masking by parts -/

theorem MaskedLine.after_after (a b : List Char) (m : MaskedLine) : (m.after b).after a = m.after (a ++ b) := by
  simp [MaskedLine.after]

/-- Inside a string, a character that does not close it is hidden. -/
theorem maskFrom_string_step (hash : Bool) {quote c : Char} (start : Nat) (read before : List Char) (offset : Nat)
    (cs : List Char) (hc : c = quote → Escapes read) :
    maskFrom hash (.string quote start (decide (Escapes read))) before offset (c :: cs) =
      (maskFrom hash (.string quote start (decide (Escapes (read ++ [c])))) (c :: before)
        (offset + c.utf8Size) cs).after (spaces [c]) := by
  rw [maskFrom]
  by_cases hread : Escapes read
  · have hnext : ¬Escapes (read ++ [c]) := by
      by_cases hback : c = '\\'
      · rw [hback, escapes_concat_backslash]
        exact not_not_intro hread
      · exact not_escapes_concat hback read
    simp only [hread, hnext, decide_true, decide_false, if_true]
  · by_cases hback : c = '\\'
    · subst hback
      simp [hread, (escapes_concat_backslash read).mpr hread]
    · have hne : c ≠ quote := fun h => hread (hc h)
      simp [hread, not_escapes_concat hback read, hback, hne]

/-- A string goes up to the first quotation mark that is not escaped, or to the end of the line. -/
theorem maskFrom_string (hash : Bool) {quote : Char} (hquote : isQuote quote = true) (start : Nat)
    (read before : List Char) (offset : Nat) (cs : List Char) :
    let m := maskFrom hash (.string quote start (decide (Escapes read))) before offset cs
    (∃ inner rest, cs = inner ++ quote :: rest ∧ AllEscaped quote read inner ∧ ¬Escapes (read ++ inner) ∧
      m = ((maskFrom hash .code (quote :: (inner.reverse ++ before)) (offset + byteLength inner + quote.utf8Size)
        rest).withString ⟨start, offset + byteLength inner + quote.utf8Size⟩).after (spaces inner ++ [quote])) ∨
    AllEscaped quote read cs ∧ m = ⟨spaces cs, [⟨start, offset + byteLength cs⟩]⟩ := by
  induction cs generalizing read before offset with
  | nil => exact .inr ⟨allEscaped_nil quote read, rfl⟩
  | cons c cs ih =>
    dsimp only
    by_cases hend : c = quote ∧ ¬Escapes read
    · obtain ⟨rfl, hread⟩ := hend
      have hback : c ≠ '\\' := by
        rintro rfl
        exact absurd hquote (by decide)
      refine .inl ⟨[], cs, rfl, allEscaped_nil c read, by rwa [List.append_nil], ?_⟩
      rw [maskFrom]
      simp [hread, hback, spaces]
    · have hc : c = quote → Escapes read := fun h => Decidable.not_not.mp fun hread => hend ⟨h, hread⟩
      rw [maskFrom_string_step hash start read before offset cs hc]
      rcases ih (read ++ [c]) (c :: before) (offset + c.utf8Size) with ⟨inner, rest, rfl, hall, hread, hm⟩ | ⟨hall, hm⟩
      · refine .inl ⟨c :: inner, rest, rfl, hall.cons hc, by rwa [List.append_cons], ?_⟩
        have hoffset : offset + c.utf8Size + byteLength inner = offset + byteLength (c :: inner) := by
          rw [Text.byteLength_cons, Nat.add_assoc]
        rw [hm, hoffset, MaskedLine.after_after, ← List.append_assoc, ← spaces_cons, List.reverse_cons,
          List.append_assoc, List.singleton_append]
      · refine .inr ⟨hall.cons hc, ?_⟩
        rw [hm, spaces_cons c cs, Text.byteLength_cons, Nat.add_assoc]
        rfl

/-- The text holds no quotation mark, and no comment starts in it if `rest` follows. -/
def Plain (hash : Bool) (code rest : List Char) : Prop :=
  ∀ a c b, code = a ++ c :: b → isQuote c = false ∧ startsComment hash (c :: (b ++ rest)) = false

theorem plain_nil (hash : Bool) (rest : List Char) : Plain hash [] rest := by
  intro a c b h
  simp at h

theorem Plain.cons {hash : Bool} {c : Char} {code rest : List Char} (h : Plain hash code rest)
    (hquote : isQuote c = false) (hcomment : startsComment hash (c :: (code ++ rest)) = false) :
    Plain hash (c :: code) rest := by
  intro a d b hsplit
  rcases List.cons_eq_append_iff.mp hsplit with ⟨rfl, heq⟩ | ⟨a, rfl, htail⟩
  · cases heq
    exact ⟨hquote, hcomment⟩
  · exact h a d b htail

/-- Code goes up to a quotation mark, a comment or the end of the line. -/
theorem maskFrom_code (hash : Bool) (before : List Char) (offset : Nat) (cs : List Char) :
    let m := maskFrom hash .code before offset cs
    (∃ code rest, cs = code ++ rest ∧ Plain hash code rest ∧ (rest = [] ∨ startsComment hash rest = true) ∧
      m = ⟨code ++ spaces rest, []⟩) ∨
    ∃ code quote rest, cs = code ++ quote :: rest ∧ Plain hash code (quote :: rest) ∧ isQuote quote = true ∧
      m = (maskFrom hash (.string quote (offset + byteLength code - leadLength (code.reverse ++ before)) false)
        (quote :: (code.reverse ++ before)) (offset + byteLength code + quote.utf8Size) rest).after
        (code ++ [quote]) := by
  induction cs generalizing before offset with
  | nil => exact .inl ⟨[], [], rfl, plain_nil hash [], .inl rfl, rfl⟩
  | cons c cs ih =>
    dsimp only
    rw [maskFrom]
    split
    · rename_i hquote
      exact .inr ⟨[], c, cs, rfl, plain_nil hash _, hquote, rfl⟩
    · rename_i hquote
      split
      · rename_i hcomment
        exact .inl ⟨[], c :: cs, rfl, plain_nil hash _, .inr hcomment, rfl⟩
      · rename_i hcomment
        have hquote := Bool.eq_false_iff.mpr hquote
        have hcomment := Bool.eq_false_iff.mpr hcomment
        rcases ih (c :: before) (offset + c.utf8Size) with
          ⟨code, rest, rfl, hplain, hrest, hm⟩ | ⟨code, quote, rest, rfl, hplain, hq, hm⟩
        · refine .inl ⟨c :: code, rest, rfl, hplain.cons hquote hcomment, hrest, ?_⟩
          rw [hm]
          rfl
        · refine .inr ⟨c :: code, quote, rest, rfl, hplain.cons hquote hcomment, hq, ?_⟩
          have hoffset : offset + c.utf8Size + byteLength code = offset + byteLength (c :: code) := by
            rw [Text.byteLength_cons, Nat.add_assoc]
          rw [hm, hoffset, MaskedLine.after_after, List.reverse_cons, List.append_assoc, List.singleton_append]
          rfl

/-! ## Literals -/

/-- A string of a line. -/
structure Literal where
  /-- What comes before it in the line. -/
  lead : List Char
  letters : List Char
  quote : Char
  inner : List Char
  closed : Bool

namespace Literal

def closing (l : Literal) : List Char := if l.closed then [l.quote] else []

/-- The letters, the quotation marks and what stands between them. -/
def text (l : Literal) : List Char := l.letters ++ l.quote :: (l.inner ++ l.closing)

def span (l : Literal) : Span := ⟨byteLength l.lead, byteLength (l.lead ++ l.text)⟩

/-- What is strictly between the quotation marks, or behind the only one. -/
def inside (l : Literal) : Span :=
  ⟨byteLength (l.lead ++ (l.letters ++ [l.quote])), byteLength (l.lead ++ (l.letters ++ l.quote :: l.inner))⟩

/-- The string stands in a line: at most two letters and a quotation mark, and then it goes up to the first occurrence
of the quotation mark that is not escaped, or else to the end of the line. -/
structure StandsIn (line : List Char) (l : Literal) : Prop where
  length_letters : l.letters.length ≤ 2
  letters : ∀ c ∈ l.letters, isStringLetter c = true
  quoted : isQuote l.quote = true
  first : ∀ a b, l.inner = a ++ l.quote :: b → Escapes a
  ends : (l.closed = true ∧ ¬Escapes l.inner ∧ ∃ rest, line = l.lead ++ (l.text ++ rest)) ∨
    (l.closed = false ∧ line = l.lead ++ l.text)

variable {line : List Char} {l : Literal}

theorem StandsIn.exists_rest (h : l.StandsIn line) : ∃ rest, line = l.lead ++ (l.text ++ rest) := by
  rcases h.ends with ⟨-, -, hrest⟩ | ⟨-, hline⟩
  · exact hrest
  · exact ⟨[], by rw [List.append_nil, hline]⟩

theorem StandsIn.liesIn (h : l.StandsIn line) : l.span.LiesIn line := by
  obtain ⟨rest, rfl⟩ := h.exists_rest
  refine ⟨?_, ⟨l.lead, l.text ++ rest, rfl, rfl⟩, ⟨l.lead ++ l.text, rest, by simp, rfl⟩⟩
  rw [span, Text.byteLength_append]
  exact Nat.le_add_right _ _

theorem offsets (l : Literal) : l.span.start + byteLength l.letters + l.quote.utf8Size = l.inside.start ∧
    l.inside.start + byteLength l.inner = l.inside.stop ∧ l.inside.stop + byteLength l.closing = l.span.stop := by
  simp only [span, inside, text, Text.byteLength_append, Text.byteLength_cons, Text.byteLength_nil]
  omega

theorem start_lt_stop (l : Literal) : l.span.start < l.span.stop := by
  have := l.offsets
  have := l.quote.utf8Size_pos
  omega

end Literal

theorem leadLength_le (before : List Char) : leadLength before ≤ 2 := by
  have hlead : ((before.take 2).takeWhile isStringLetter).length ≤ 2 :=
    Nat.le_trans (List.takeWhile_prefix _).length_le (List.length_take_le 2 before)
  rw [leadLength]
  split
  · split
    · exact Nat.zero_le 2
    · exact hlead
  · exact hlead

theorem exists_letters (before code : List Char) (hbefore : ∀ c, before.getLast? = some c → isQuote c = true) :
    ∃ front letters, code = front ++ letters ∧ letters.length ≤ 2 ∧ (∀ c ∈ letters, isStringLetter c = true) ∧
      leadLength (code.reverse ++ before.reverse) = byteLength letters := by
  obtain ⟨lead, rest, hsplit, hlength, hletters⟩ := exists_lead (code.reverse ++ before.reverse)
  have hle := leadLength_le (code.reverse ++ before.reverse)
  rw [← hlength, byteLength_of_isStringLetter hletters] at hle
  have hcode : ∃ more, code.reverse = lead ++ more := by
    rcases List.append_eq_append_iff.mp hsplit with ⟨e, rfl, hold⟩ | ⟨e, he, -⟩
    · cases e with
      | nil => exact ⟨[], by simp⟩
      | cons d e =>
        -- the last character before the code is a quotation mark, and no letter
        have hd : before.getLast? = some d := by rw [← List.head?_reverse, hold, List.cons_append, List.head?_cons]
        have hletter := hletters d (by simp)
        rw [not_isStringLetter_of_isQuote (hbefore d hd)] at hletter
        cases hletter
    · exact ⟨e, he⟩
  obtain ⟨more, hmore⟩ := hcode
  refine ⟨more.reverse, lead.reverse, ?_, by simpa using hle, by simpa using hletters, ?_⟩
  · rw [← List.reverse_append, ← hmore, List.reverse_reverse]
  · rw [Text.byteLength_reverse, hlength]

/-! ## What a mask shows -/

/-- From an offset on, the mask has a space for each byte of a text that is hidden, and the other bytes of the text. -/
structure Shows (hidden : Nat → Prop) (offset : Nat) (cs mask : List Char) : Prop where
  length_eq : byteLength mask = byteLength cs
  blanks : ∀ n < byteLength cs, hidden (offset + n) → (bytes mask)[n]? = some 32
  keeps : ∀ n < byteLength cs, ¬hidden (offset + n) → (bytes mask)[n]? = (bytes cs)[n]?

section Shows

variable {hidden hidden' : Nat → Prop} {offset : Nat} {a b cs mask mask' : List Char}

theorem Shows.keep (h : ∀ n, offset ≤ n → n < offset + byteLength cs → ¬hidden n) : Shows hidden offset cs cs where
  length_eq := rfl
  blanks _ hn hhidden := absurd hhidden (h _ (Nat.le_add_right _ _) (Nat.add_lt_add_left hn _))
  keeps _ _ _ := rfl

theorem Shows.hide (h : ∀ n, offset ≤ n → n < offset + byteLength cs → hidden n) :
    Shows hidden offset cs (spaces cs) where
  length_eq := byteLength_spaces cs
  blanks n hn _ := by rw [bytes_spaces, List.getElem?_replicate_of_lt hn]
  keeps _ hn hshown := absurd (h _ (Nat.le_add_right _ _) (Nat.add_lt_add_left hn _)) hshown

theorem Shows.append (ha : Shows hidden offset a mask) (hb : Shows hidden (offset + byteLength a) b mask') :
    Shows hidden offset (a ++ b) (mask ++ mask') := by
  -- a byte of the whole is one of the first part or one of the second
  have hfirst {n : Nat} (hn : n < byteLength a) :
      (bytes (mask ++ mask'))[n]? = (bytes mask)[n]? ∧ (bytes (a ++ b))[n]? = (bytes a)[n]? := by
    rw [Text.bytes_append, Text.bytes_append]
    refine ⟨List.getElem?_append_left ?_, List.getElem?_append_left ?_⟩
    · rwa [Text.length_bytes, ha.length_eq]
    · rwa [Text.length_bytes]
  have hsecond (n : Nat) : (bytes (mask ++ mask'))[byteLength a + n]? = (bytes mask')[n]? ∧
      (bytes (a ++ b))[byteLength a + n]? = (bytes b)[n]? := by
    rw [Text.bytes_append, Text.bytes_append, ← Text.length_bytes a]
    refine ⟨?_, ?_⟩
    · rw [Text.length_bytes, ← ha.length_eq, ← Text.length_bytes, List.getElem?_append_right (by omega),
        Nat.add_sub_cancel_left]
    · rw [List.getElem?_append_right (by omega), Nat.add_sub_cancel_left]
  refine ⟨?_, fun n hn hhidden => ?_, fun n hn hshown => ?_⟩
  · rw [Text.byteLength_append, Text.byteLength_append, ha.length_eq, hb.length_eq]
  · by_cases hlt : n < byteLength a
    · rw [(hfirst hlt).1]
      exact ha.blanks n hlt hhidden
    · obtain ⟨k, rfl⟩ := Nat.exists_eq_add_of_le (Nat.le_of_not_lt hlt)
      rw [(hsecond k).1]
      rw [Text.byteLength_append] at hn
      exact hb.blanks k (by omega) (by rwa [Nat.add_assoc])
  · by_cases hlt : n < byteLength a
    · rw [(hfirst hlt).1, (hfirst hlt).2]
      exact ha.keeps n hlt hshown
    · obtain ⟨k, rfl⟩ := Nat.exists_eq_add_of_le (Nat.le_of_not_lt hlt)
      rw [(hsecond k).1, (hsecond k).2]
      rw [Text.byteLength_append] at hn
      exact hb.keeps k (by omega) (by rwa [Nat.add_assoc])

theorem Shows.congr (h : Shows hidden offset cs mask) (heq : ∀ n, offset ≤ n → (hidden' n ↔ hidden n)) :
    Shows hidden' offset cs mask where
  length_eq := h.length_eq
  blanks n hn hhidden := h.blanks n hn ((heq _ (Nat.le_add_right _ _)).mp hhidden)
  keeps n hn hshown := h.keeps n hn fun hhidden => hshown ((heq _ (Nat.le_add_right _ _)).mpr hhidden)

end Shows

/-! ## Layouts -/

/-- The offset is behind the start of the comment, or strictly inside a string. -/
def Hidden (literals : List Literal) (comment n : Nat) : Prop := comment ≤ n ∨ ∃ l ∈ literals, l.inside.Covers n

/-- The strings behind `before`, the offset where the comment starts or the line ends, and what is masked of them. -/
structure Layout (hash : Bool) (before cs : List Char) (m : MaskedLine) (literals : List Literal) (comment : Nat) :
    Prop where
  strings : m.strings = literals.map Literal.span
  stands : ∀ l ∈ literals, l.StandsIn (before ++ cs)
  within : ∀ l ∈ literals, byteLength before ≤ l.span.start ∧ l.span.stop ≤ comment
  ordered : literals.Pairwise fun l k => l.closed = true ∧ l.span.stop ≤ k.span.start
  le_comment : byteLength before ≤ comment
  starts : ∃ code rest, before ++ cs = code ++ rest ∧ byteLength code = comment ∧
    (rest = [] ∨ startsComment hash rest = true)
  plain : ∀ a c b, before ++ cs = a ++ c :: b → byteLength before ≤ byteLength a → byteLength a < comment →
    (∀ l ∈ literals, ¬l.span.Covers (byteLength a)) → isQuote c = false ∧ startsComment hash (c :: b) = false
  shows : Shows (Hidden literals comment) (byteLength before) cs m.mask

section Layout

variable {hash : Bool} {before code rest : List Char}

theorem Layout.last (hplain : Plain hash code rest) (hrest : rest = [] ∨ startsComment hash rest = true) :
    Layout hash before (code ++ rest) ⟨code ++ spaces rest, []⟩ [] (byteLength (before ++ code)) where
  strings := rfl
  stands := List.forall_mem_nil _
  within := List.forall_mem_nil _
  ordered := List.Pairwise.nil
  le_comment := by
    rw [Text.byteLength_append]
    exact Nat.le_add_right _ _
  starts := ⟨before ++ code, rest, by simp, rfl, hrest⟩
  plain a c b hsplit hle hlt _ := by
    rw [Text.byteLength_append] at hlt
    obtain ⟨u, v, rfl, -, rfl⟩ := Text.split_between hsplit hle hlt
    exact hplain u c v rfl
  shows := by
    refine .append (.keep fun n _ hn => ?_) (.hide fun n hn _ => .inl ?_)
    · rintro (hcomment | ⟨l, hl, -⟩)
      · rw [Text.byteLength_append] at hcomment
        omega
      · cases hl
    · rwa [Text.byteLength_append]

variable {l : Literal} {literals : List Literal} {comment n : Nat}

/-- Behind a string, the strings and the comment behind it decide what is hidden. -/
theorem hidden_cons_of_le (hn : l.span.stop ≤ n) : Hidden (l :: literals) comment n ↔ Hidden literals comment n := by
  refine or_congr Iff.rfl ⟨?_, ?_⟩
  · rintro ⟨k, hk, hcovers⟩
    rcases List.mem_cons.mp hk with rfl | hk
    · have := hcovers.2
      have := k.offsets
      omega
    · exact ⟨k, hk, hcovers⟩
  · rintro ⟨k, hk, hcovers⟩
    exact ⟨k, List.mem_cons_of_mem l hk, hcovers⟩

/-- Before its end, only the string itself does. -/
theorem hidden_cons_of_lt (hcomment : l.span.stop ≤ comment) (hbehind : ∀ k ∈ literals, l.span.stop ≤ k.span.start)
    (hn : n < l.span.stop) : Hidden (l :: literals) comment n ↔ l.inside.Covers n := by
  constructor
  · rintro (hle | ⟨k, hk, hcovers⟩)
    · omega
    · rcases List.mem_cons.mp hk with rfl | hk
      · exact hcovers
      · have := hbehind k hk
        have := hcovers.1
        have := k.offsets
        omega
  · exact fun hcovers => .inr ⟨l, List.mem_cons_self, hcovers⟩

/-- The code up to a string and its quotation marks are kept, and what is inside is hidden. -/
theorem shows_string (hstart : byteLength before + byteLength code = l.span.start + byteLength l.letters)
    (hcomment : l.span.stop ≤ comment) (hbehind : ∀ k ∈ literals, l.span.stop ≤ k.span.start) {mask : List Char}
    (h : Shows (Hidden literals comment) l.span.stop rest mask) :
    Shows (Hidden (l :: literals) comment) (byteLength before) (code ++ l.quote :: (l.inner ++ (l.closing ++ rest)))
      (code ++ l.quote :: (spaces l.inner ++ (l.closing ++ mask))) := by
  obtain ⟨hopen, hinside, hstop⟩ := l.offsets
  have hat : byteLength before + byteLength (code ++ [l.quote]) = l.inside.start := by
    rw [Text.byteLength_append, Text.byteLength_cons, Text.byteLength_nil]
    omega
  have hcode : Shows (Hidden (l :: literals) comment) (byteLength before) (code ++ [l.quote]) (code ++ [l.quote]) := by
    refine .keep fun n _ hn => ?_
    rw [hat] at hn
    rw [hidden_cons_of_lt hcomment hbehind (by omega)]
    exact fun hcovers => Nat.not_lt.mpr hcovers.1 hn
  have hinner : Shows (Hidden (l :: literals) comment) l.inside.start l.inner (spaces l.inner) := by
    refine .hide fun n hn hn' => ?_
    rw [hinside] at hn'
    rw [hidden_cons_of_lt hcomment hbehind (by omega)]
    exact ⟨hn, hn'⟩
  have hclosing : Shows (Hidden (l :: literals) comment) l.inside.stop l.closing l.closing := by
    refine .keep fun n hn hn' => ?_
    rw [hstop] at hn'
    rw [hidden_cons_of_lt hcomment hbehind hn']
    exact fun hcovers => Nat.not_lt.mpr hn hcovers.2
  have hrest : Shows (Hidden (l :: literals) comment) l.span.stop rest mask := h.congr fun n hn => hidden_cons_of_le hn
  have := hcode.append (hat ▸ hinner.append (hinside ▸ hclosing.append (hstop ▸ hrest)))
  simpa using this

theorem Layout.string {m : MaskedLine} (hcode : before ++ code = l.lead ++ l.letters)
    (hlead : byteLength before ≤ byteLength l.lead)
    (hplain : Plain hash code (l.quote :: (l.inner ++ (l.closing ++ rest))))
    (hl : l.StandsIn (l.lead ++ (l.text ++ rest))) (hclosed : literals ≠ [] → l.closed = true)
    (h : Layout hash (l.lead ++ l.text) rest m literals comment) :
    Layout hash before (code ++ l.quote :: (l.inner ++ (l.closing ++ rest)))
      ((m.withString l.span).after (code ++ l.quote :: (spaces l.inner ++ l.closing))) (l :: literals) comment := by
  have hline : before ++ (code ++ l.quote :: (l.inner ++ (l.closing ++ rest))) = (l.lead ++ l.text) ++ rest := by
    rw [← List.append_assoc, hcode]
    simp [Literal.text]
  have hstart : byteLength before + byteLength code = l.span.start + byteLength l.letters := by
    have := congrArg byteLength hcode
    rwa [Text.byteLength_append, Text.byteLength_append] at this
  have hbefore : byteLength before ≤ l.span.start := hlead
  have hcomment : l.span.stop ≤ comment := h.le_comment
  have hbehind : ∀ k ∈ literals, l.span.stop ≤ k.span.start := fun k hk => (h.within k hk).1
  have hspan := l.start_lt_stop
  refine ⟨?_, ?_, ?_, ?_, ?_, ?_, ?_, ?_⟩
  · show l.span :: m.strings = _
    rw [h.strings, List.map_cons]
  · rw [hline]
    exact List.forall_mem_cons.mpr ⟨by rwa [List.append_assoc], h.stands⟩
  · refine List.forall_mem_cons.mpr ⟨⟨hlead, hcomment⟩, fun k hk => ⟨?_, (h.within k hk).2⟩⟩
    have := hbehind k hk
    omega
  · exact List.pairwise_cons.mpr ⟨fun k hk => ⟨hclosed (List.ne_nil_of_mem hk), hbehind k hk⟩, h.ordered⟩
  · omega
  · rw [hline]
    exact h.starts
  · intro a c b hsplit hle hlt hcovers
    obtain ⟨hthis, hothers⟩ := List.forall_mem_cons.mp hcovers
    by_cases ha : byteLength a < l.span.start
    · obtain ⟨u, v, rfl, -, rfl⟩ := Text.split_between hsplit hle (by omega)
      exact hplain u c v rfl
    · have hend : l.span.stop ≤ byteLength a := Nat.le_of_not_lt fun hlt => hthis ⟨Nat.le_of_not_lt ha, hlt⟩
      rw [hline] at hsplit
      exact h.plain a c b hsplit hend hlt hothers
  · have := shows_string hstart hcomment hbehind h.shows
    simpa [MaskedLine.after, MaskedLine.withString] using this

end Layout

theorem maskFrom_next (hash : Bool) (before cs : List Char)
    (hbefore : ∀ c, before.getLast? = some c → isQuote c = true) :
    let m := maskFrom hash .code before.reverse (byteLength before) cs
    (∃ code rest, cs = code ++ rest ∧ Plain hash code rest ∧ (rest = [] ∨ startsComment hash rest = true) ∧
      m = ⟨code ++ spaces rest, []⟩) ∨
    ∃ (l : Literal) (code rest : List Char), cs = code ++ l.quote :: (l.inner ++ (l.closing ++ rest)) ∧
      before ++ code = l.lead ++ l.letters ∧ byteLength before ≤ byteLength l.lead ∧
      Plain hash code (l.quote :: (l.inner ++ (l.closing ++ rest))) ∧ l.StandsIn (l.lead ++ (l.text ++ rest)) ∧
      (l.closed = false → rest = []) ∧
      m = ((maskFrom hash .code (l.lead ++ l.text).reverse (byteLength (l.lead ++ l.text)) rest).withString
        l.span).after (code ++ l.quote :: (spaces l.inner ++ l.closing)) := by
  rcases maskFrom_code hash before.reverse (byteLength before) cs with hlast | ⟨code, quote, tail, rfl,
    hplain, hquote, hm⟩
  · exact .inl hlast
  · right
    obtain ⟨front, letters, rfl, hletters, hletter, hlead⟩ := exists_letters before code hbefore
    have hstart : byteLength before + byteLength (front ++ letters) -
        leadLength ((front ++ letters).reverse ++ before.reverse) = byteLength (before ++ front) := by
      rw [hlead, Text.byteLength_append, Text.byteLength_append]
      omega
    rw [hm, hstart]
    rcases maskFrom_string hash hquote (byteLength (before ++ front)) []
      (quote :: ((front ++ letters).reverse ++ before.reverse))
        (byteLength before + byteLength (front ++ letters) + quote.utf8Size) tail with
      ⟨inner, rest, rfl, hall, hend, hm⟩ | ⟨hall, hm⟩
    · let l : Literal := ⟨before ++ front, letters, quote, inner, true⟩
      have hclosing : l.closing = [quote] := rfl
      have hbehind : byteLength before + byteLength (front ++ letters) + quote.utf8Size + byteLength inner +
          quote.utf8Size = byteLength (l.lead ++ l.text) := by
        simp [l, Literal.text, hclosing]
        omega
      have hread : quote :: (inner.reverse ++ quote :: ((front ++ letters).reverse ++ before.reverse)) =
          (l.lead ++ l.text).reverse := by
        simp [l, Literal.text, hclosing]
      refine ⟨l, front ++ letters, rest, rfl, by simp [l], by simp [l], hplain,
        ⟨hletters, hletter, hquote, hall, .inl ⟨rfl, hend, rest, rfl⟩⟩, by simp [l], ?_⟩
      rw [show decide (Escapes []) = false from rfl] at hm
      rw [hm, hbehind, hread, MaskedLine.after_after, hclosing]
      simp [l, Literal.span]
    · let l : Literal := ⟨before ++ front, letters, quote, tail, false⟩
      have hclosing : l.closing = [] := rfl
      have hbehind : byteLength before + byteLength (front ++ letters) + quote.utf8Size + byteLength tail =
          byteLength (l.lead ++ l.text) := by
        simp [l, Literal.text, hclosing]
        omega
      refine ⟨l, front ++ letters,
        [], by simp [l, hclosing], by simp [l], by simp [l], by simpa [l, hclosing] using hplain,
        ⟨hletters, hletter, hquote, hall, .inr ⟨rfl, by rw [List.append_nil]⟩⟩, fun _ => rfl, ?_⟩
      rw [show decide (Escapes []) = false from rfl] at hm
      rw [hm, hbehind, hclosing, maskFrom]
      simp [l, Literal.span, MaskedLine.after, MaskedLine.withString]

theorem Literal.getLast?_text {l : Literal} (h : l.closed = true) : (l.lead ++ l.text).getLast? = some l.quote := by
  have htext : l.lead ++ l.text = (l.lead ++ (l.letters ++ l.quote :: l.inner)) ++ [l.quote] := by
    simp [Literal.text, Literal.closing, h]
  rw [htext, List.getLast?_concat]

/-- By induction on the length of the rest, from one string to the next. -/
theorem exists_layout (hash : Bool) (before cs : List Char)
    (hbefore : ∀ c, before.getLast? = some c → isQuote c = true) :
    ∃ literals comment, Layout hash before cs (maskFrom hash .code before.reverse (byteLength before) cs) literals
      comment := by
  induction hlength : cs.length using Nat.strongRecOn generalizing before cs with
  | _ length ih =>
    rcases maskFrom_next hash before cs hbefore with
      ⟨code, rest, rfl, hplain, hrest, hm⟩ | ⟨l, code, rest, rfl, hcode, hlead, hplain, hl, hopen, hm⟩
    · rw [hm]
      exact ⟨[], _, .last hplain hrest⟩
    · rw [hm]
      cases hclosed : l.closed with
      | true =>
        have hquote : ∀ c, (l.lead ++ l.text).getLast? = some c → isQuote c = true := by
          intro c hc
          rw [l.getLast?_text hclosed] at hc
          cases hc
          exact hl.quoted
        have hshorter : rest.length < length := by
          rw [← hlength]
          simp only [List.length_append, List.length_cons]
          omega
        obtain ⟨literals, comment, h⟩ := ih rest.length hshorter (l.lead ++ l.text) rest hquote rfl
        exact ⟨l :: literals, comment, .string hcode hlead hplain hl (fun _ => hclosed) h⟩
      | false =>
        obtain rfl := hopen hclosed
        have h : Layout hash (l.lead ++ l.text) [] ⟨[], []⟩ [] (byteLength (l.lead ++ l.text ++ [])) :=
          .last (plain_nil hash []) (.inl rfl)
        exact ⟨[l], _, .string hcode hlead hplain hl (fun hne => absurd rfl hne) h⟩

/-- **A mask is faithful to its line.** It has the length of the line in bytes. The strings of the line are in its
range, between characters, in order and disjoint; each has at most two letters and a quotation mark at its start and
goes up to the first occurrence of the quotation mark that is not escaped, or, the last one only, to the end of the
line. A comment starts behind all strings, at the first marker outside them, and outside strings and the comment there
is no quotation mark. Bytes strictly inside a string or in the comment are spaces; all others are those of the line.
-/
theorem mask_faithful (hash : Bool) (line : List Char) :
    ∃ (literals : List Literal) (comment : Nat),
      let m := maskLine hash line
      (m.strings = literals.map Literal.span ∧ (∀ l ∈ literals, l.StandsIn line) ∧ ∀ l ∈ literals.dropLast,
        l.closed = true) ∧
      ((∀ s ∈ m.strings, s.LiesIn line ∧ s.start < s.stop ∧ s.stop ≤ comment) ∧
        m.strings.Pairwise fun s t => s.stop ≤ t.start) ∧
      ((∃ code rest, line = code ++ rest ∧ byteLength code = comment ∧ (rest = [] ∨ startsComment hash rest = true)) ∧
        ∀ a c b, line = a ++ c :: b → byteLength a < comment → (∀ s ∈ m.strings, ¬s.Covers (byteLength a)) →
          isQuote c = false ∧ startsComment hash (c :: b) = false) ∧
      (bytes m.mask).length = (bytes line).length ∧
      (∀ (n : Nat) (b : UInt8), (bytes m.mask)[n]? = some b → b ≠ 32 → (bytes line)[n]? = some b) ∧
      ∀ n < (bytes line).length,
        (comment ≤ n ∨ (∃ l ∈ literals, l.inside.Covers n) → (bytes m.mask)[n]? = some 32) ∧
        (n < comment → (∀ l ∈ literals, ¬l.inside.Covers n) → (bytes m.mask)[n]? = (bytes line)[n]?) := by
  obtain ⟨literals, comment, h⟩ := exists_layout hash [] line (by simp)
  refine ⟨literals, comment, ?_⟩
  intro m
  have hstrings : m.strings = literals.map Literal.span := h.strings
  have hlength : (bytes m.mask).length = (bytes line).length := by
    rw [Text.length_bytes, Text.length_bytes]
    exact h.shows.length_eq
  have hblanks : ∀ n < (bytes line).length, Hidden literals comment n → (bytes m.mask)[n]? = some 32 := by
    intro n hn hhidden
    exact h.shows.blanks n (Text.length_bytes line ▸ hn) ((Nat.zero_add n).symm ▸ hhidden)
  have hkeeps : ∀ n < (bytes line).length, ¬Hidden literals comment n → (bytes m.mask)[n]? = (bytes line)[n]? := by
    intro n hn hshown
    exact h.shows.keeps n (Text.length_bytes line ▸ hn) ((Nat.zero_add n).symm ▸ hshown)
  refine ⟨⟨hstrings, h.stands, fun l hl => ?_⟩, ⟨?_, ?_⟩, ⟨h.starts, ?_⟩, hlength, fun n b hb hne => ?_,
    fun n hn => ⟨hblanks n hn, fun hlt hshown => hkeeps n hn ?_⟩⟩
  · obtain ⟨front, last, hconcat⟩ := (List.eq_nil_or_concat literals).resolve_left fun hnil => by simp [hnil] at hl
    have hordered := h.ordered
    rw [hconcat, List.concat_eq_append] at hl hordered
    rw [List.dropLast_concat] at hl
    exact ((List.pairwise_append.mp hordered).2.2 l hl last (by simp)).1
  · rw [hstrings]
    exact List.forall_mem_map.mpr fun l hl => ⟨(h.stands l hl).liesIn, l.start_lt_stop, (h.within l hl).2⟩
  · rw [hstrings]
    exact List.pairwise_map.mpr (h.ordered.imp And.right)
  · intro a c b hsplit hlt hcovers
    rw [hstrings] at hcovers
    exact h.plain a c b hsplit (Nat.zero_le _) hlt fun l hl => hcovers _ (List.mem_map_of_mem hl)
  · obtain ⟨hn, -⟩ := List.getElem?_eq_some_iff.mp hb
    rw [hlength] at hn
    rw [← hkeeps n hn fun hhidden => ?_, hb]
    rw [hblanks n hn hhidden] at hb
    exact hne (Option.some.inj hb).symm
  · rintro (hle | ⟨l, hl, hcovers⟩)
    · exact absurd hlt (Nat.not_lt.mpr hle)
    · exact hshown l hl hcovers

example : maskLine true "x = f'#\\'é' # y".toList = ⟨"x = f'     '    ".toList, [⟨4, 12⟩]⟩ := by decide

end Outline

end SourceAudit
