import SourceAudit.Proofs.Query.Parser
import SourceAudit.Proofs.Query.Positions

/-!
# Blanks and comments mean nothing

* `IsTrivia w` : the text `w` holds blanks and whole comments only;
* `tokensFrom_trivia` : what comes after such a text is read as if it started there;
* `Shifted n ts us` : the tokens `us` are those of `ts`, moved by `n` bytes;
* `stringBody_stable`, `regexBody_stable`, `lexeme_stable` : a token does not depend on what follows it, as long as
  that does not continue a word;
* `tokensFrom_insert` : trivia before a token leave the tokens before it as they are and move the others;
* `trivia_insignificant` : so they change no token and no query.
-/

namespace SourceAudit.Query

open Text (byteLength)

variable {p q : Position} {c : Char} {cs a b w : List Char} {t : Token}

/-- Blanks and whole comments, in any number and order. -/
inductive IsTrivia : List Char → Prop where
  | nil : IsTrivia []
  | blank {c : Char} {w : List Char} : Text.isBlank c = true → IsTrivia w → IsTrivia (c :: w)
  | comment {text w : List Char} : '\n' ∉ text → IsTrivia w → IsTrivia ('#' :: (text ++ '\n' :: w))

/-! ## One step of the lexer -/

theorem tokensFrom_nil (p : Position) : tokensFrom p [] = [⟨.eof, p⟩] := by
  rw [tokensFrom.eq_def]

theorem tokensFrom_blank (hblank : Text.isBlank c = true) (p : Position) (cs : List Char) :
    tokensFrom p (c :: cs) = tokensFrom (p.step c) cs := by
  rw [tokensFrom.eq_def]
  simp only [hblank, if_true]

theorem tokensFrom_comment (p : Position) (cs : List Char) :
    tokensFrom p ('#' :: cs) =
      tokensFrom (p.advance ('#' :: cs.takeWhile (· ≠ '\n'))) (cs.dropWhile (· ≠ '\n')) := by
  have hblank : Text.isBlank '#' = false := by decide
  rw [tokensFrom.eq_def]
  simp only [hblank, Bool.false_eq_true, if_false, if_true]

theorem tokensFrom_lexeme (hblank : ¬Text.isBlank c = true) (hhash : c ≠ '#') (p : Position) (cs : List Char) :
    tokensFrom p (c :: cs) =
      ⟨(lexeme c cs).1, p⟩ :: tokensFrom (p.advance (c :: cs.take (lexeme c cs).2)) (cs.drop (lexeme c cs).2) := by
  rw [tokensFrom.eq_def]
  simp only [hblank, hhash, Bool.false_eq_true, if_false]

/-! ## Trivia before a text -/

/-- A text without line ends goes on with the line that follows. -/
theorem takeWhile_append_line {text : List Char} (h : '\n' ∉ text) (rest : List Char) :
    (text ++ rest).takeWhile (· ≠ '\n') = text ++ rest.takeWhile (· ≠ '\n') ∧
      (text ++ rest).dropWhile (· ≠ '\n') = rest.dropWhile (· ≠ '\n') := by
  have htext : ∀ d ∈ text, decide (d ≠ '\n') = true := by
    intro d hd
    have hne : d ≠ '\n' := by
      rintro rfl
      exact h hd
    simpa using hne
  exact ⟨List.takeWhile_append_of_pos htext, List.dropWhile_append_of_pos htext⟩

theorem takeWhile_line {text : List Char} (h : '\n' ∉ text) (rest : List Char) :
    (text ++ '\n' :: rest).takeWhile (· ≠ '\n') = text ∧ (text ++ '\n' :: rest).dropWhile
    (· ≠ '\n') = '\n' :: rest := by
  obtain ⟨htake, hdrop⟩ := takeWhile_append_line h ('\n' :: rest)
  constructor
  · rw [htake, List.takeWhile_cons_of_neg (by simp), List.append_nil]
  · rw [hdrop, List.dropWhile_cons_of_neg (by simp)]

theorem tokensFrom_trivia (h : IsTrivia w) (p : Position) (cs : List Char) :
    tokensFrom p (w ++ cs) = tokensFrom (p.advance w) cs := by
  induction h generalizing p with
  | nil => rfl
  | blank hblank _ ih => rw [List.cons_append, tokensFrom_blank hblank, ih, Position.advance_cons]
  | @comment text w htext _ ih =>
    obtain ⟨htake, hdrop⟩ := takeWhile_line htext (w ++ cs)
    have hline : Text.isBlank '\n' = true := by decide
    rw [List.cons_append, List.append_assoc, List.cons_append, tokensFrom_comment, htake, hdrop,
      tokensFrom_blank hline, ih]
    rw [Position.advance_cons, Position.advance_cons, Position.advance_append, Position.advance_cons]

theorem IsTrivia.dropLine (h : IsTrivia w) : IsTrivia (w.dropWhile (· ≠ '\n')) := by
  induction h with
  | nil => exact .nil
  | @blank c w hblank hw ih =>
    by_cases hc : c = '\n'
    · rw [List.dropWhile_cons_of_neg (by simpa using hc)]
      exact .blank hblank hw
    · rw [List.dropWhile_cons_of_pos (by simpa using hc)]
      exact ih
  | @comment text w htext hw _ =>
    rw [List.dropWhile_cons_of_pos (by simp), (takeWhile_line htext w).2]
    exact .blank (by decide) hw

/-! ## Moved tokens -/

/-- The tokens are of the same kinds in the same order, each moved by some bytes. -/
structure Shifted (n : Nat) (ts us : List Token) : Prop where
  kinds : us.map Token.kind = ts.map Token.kind
  offsets : us.map (·.position.offset) = ts.map (·.position.offset + n)

theorem Shifted.cons {n : Nat} {ts us : List Token} {t u : Token} (hkind : u.kind = t.kind)
    (hoffset : u.position.offset = t.position.offset + n) (h : Shifted n ts us) : Shifted n (t :: ts) (u :: us) := by
  constructor
  · rw [List.map_cons, List.map_cons, hkind, h.kinds]
  · rw [List.map_cons, List.map_cons, hoffset, h.offsets]

/-- The same text at another place has the same tokens, moved. -/
theorem tokensFrom_shifted {n : Nat} (h : q.offset = p.offset + n) (cs : List Char) :
    Shifted n (tokensFrom p cs) (tokensFrom q cs) := by
  fun_induction tokensFrom p cs generalizing q with
  | case1 p =>
    rw [tokensFrom_nil]
    exact .cons rfl h ⟨rfl, rfl⟩
  | case2 p c cs hblank ih =>
    rw [tokensFrom_blank hblank]
    apply ih
    rw [Position.offset_step, Position.offset_step]
    omega
  | case3 p cs hblank ih =>
    rw [tokensFrom_comment]
    apply ih
    rw [Position.offset_advance, Position.offset_advance]
    omega
  | case4 p c cs hblank hhash kind m hlex ih =>
    rw [tokensFrom_lexeme hblank hhash, hlex]
    refine .cons rfl h (ih ?_)
    dsimp only
    rw [Position.offset_advance, Position.offset_advance]
    omega

theorem tokensFrom_trivia_shifted (h : IsTrivia w) (p : Position) (cs : List Char) :
    Shifted (byteLength w) (tokensFrom p cs) (tokensFrom p (w ++ cs)) := by
  rw [tokensFrom_trivia h]
  exact tokensFrom_shifted (Position.offset_advance p w) cs

/-! ## Tokens and what follows them -/

/-- A string ends with its closing quote, whatever comes then. -/
theorem stringBody_stable {quote : Char} {value : List Char} {n : Nat} (h : stringBody quote cs = some (value, n)) :
    n ≤ cs.length ∧ ∀ tail, stringBody quote (cs.take n ++ tail) = some (value, n) := by
  fun_induction stringBody quote cs generalizing value n with
  | case1 => cases h
  | case2 cs =>
    cases h
    exact ⟨by simp, fun tail => stringBody_close quote tail⟩
  | case3 => cases h
  | case4 d ds hquote ih =>
    obtain ⟨⟨value, n⟩, hbody, hpair⟩ := Option.map_eq_some_iff.mp h
    cases hpair
    obtain ⟨hle, hstable⟩ := ih hbody
    refine ⟨Nat.add_le_add_right hle 2, fun tail => ?_⟩
    rw [List.take_succ_cons, List.take_succ_cons, List.cons_append, List.cons_append, stringBody_escape hquote, hstable]
    rfl
  | case5 c cs hquote hback ih =>
    obtain ⟨⟨value, n⟩, hbody, hpair⟩ := Option.map_eq_some_iff.mp h
    cases hpair
    obtain ⟨hle, hstable⟩ := ih hbody
    refine ⟨Nat.add_le_add_right hle 1, fun tail => ?_⟩
    rw [List.take_succ_cons, List.cons_append, stringBody_plain hquote hback, hstable]
    rfl

/-- So does a regular expression with its closing slash. -/
theorem regexBody_stable {pattern : List Char} {n : Nat} (h : regexBody cs = (some pattern, n)) :
    n ≤ cs.length ∧ ∀ tail, regexBody (cs.take n ++ tail) = (some pattern, n) := by
  fun_induction regexBody cs generalizing pattern n with
  | case1 => cases h
  | case2 cs =>
    cases h
    exact ⟨by simp, fun tail => regexBody_close tail⟩
  | case3 => cases h
  | case4 => cases h
  | case5 d ds found m hrest hslash hline ih =>
    obtain ⟨hmap, hn⟩ := Prod.mk.inj h
    obtain ⟨inner, rfl, rfl⟩ := Option.map_eq_some_iff.mp hmap
    subst hn
    obtain ⟨hle, hstable⟩ := ih hrest
    refine ⟨Nat.add_le_add_right hle 2, fun tail => ?_⟩
    rw [List.take_succ_cons, List.take_succ_cons, List.cons_append, List.cons_append, regexBody_escape, hstable]
    rfl
  | case6 c cs hslash hline hback found m hrest ih =>
    obtain ⟨hmap, hn⟩ := Prod.mk.inj h
    obtain ⟨inner, rfl, rfl⟩ := Option.map_eq_some_iff.mp hmap
    subst hn
    obtain ⟨hle, hstable⟩ := ih hrest
    refine ⟨Nat.add_le_add_right hle 1, fun tail => ?_⟩
    rw [List.take_succ_cons, List.cons_append, regexBody_plain hslash hline hback, hstable]
    rfl

/-- The text is empty, or starts with a character that continues neither a word nor the flags of a regular expression.
-/
def EndsWord (cs : List Char) : Prop := ∀ d, cs.head? = some d → continuesIdentifier d = false ∧ d.isAlpha = false

theorem IsTrivia.endsWord (h : IsTrivia w) (hne : w ≠ []) (rest : List Char) : EndsWord (w ++ rest) := by
  intro d hd
  cases h with
  | nil => exact absurd rfl hne
  | blank hblank _ =>
    cases hd
    exact ⟨Text.eq_false_of_isBlank (by decide +kernel) hblank, Text.eq_false_of_isBlank (by decide) hblank⟩
  | comment _ _ =>
    cases hd
    exact ⟨by decide +kernel, by decide⟩

theorem take_length_takeWhile (f : Char → Bool) (cs : List Char) :
    cs.take (cs.takeWhile f).length = cs.takeWhile f ∧ cs.drop (cs.takeWhile f).length = cs.dropWhile f := by
  have hsplit := List.takeWhile_append_dropWhile (p := f) (l := cs)
  constructor
  · calc cs.take (cs.takeWhile f).length
        = (cs.takeWhile f ++ cs.dropWhile f).take (cs.takeWhile f).length := by rw [hsplit]
      _ = cs.takeWhile f := List.take_left
  · calc cs.drop (cs.takeWhile f).length
        = (cs.takeWhile f ++ cs.dropWhile f).drop (cs.takeWhile f).length := by rw [hsplit]
      _ = cs.dropWhile f := List.drop_left

/-- A run of characters ends where it did if the same character follows, or another one that does not continue it. -/
theorem takeWhile_stable {f : Char → Bool} {tail : List Char}
    (h : tail.head? = (cs.dropWhile f).head? ∨ ∀ d, tail.head? = some d → f d = false) :
    (cs.takeWhile f ++ tail).takeWhile f = cs.takeWhile f := by
  have hstop : ∀ d, tail.head? = some d → f d = false := by
    rcases h with hsame | hstop
    · intro d hd
      have hnot := List.head?_dropWhile_not f cs
      rwa [← hsame, hd] at hnot
    · exact hstop
  have hnil : tail.takeWhile f = [] := by
    cases tail with
    | nil => rfl
    | cons d tail => exact List.takeWhile_cons_of_neg (by simp [hstop d rfl])
  rw [List.takeWhile_append_of_pos (List.all_eq_true.mp List.all_takeWhile), hnil, List.append_nil]

/-- The flags of a regular expression are a run of letters after its closing slash. -/
theorem lexeme_regex_stable {pattern : List Char} {n : Nat} (hbody : regexBody cs = (some pattern, n)) :
    n + ((cs.drop n).takeWhile Char.isAlpha).length ≤ cs.length ∧
      ∀ tail, tail.head? = (cs.drop (n + ((cs.drop n).takeWhile Char.isAlpha).length)).head? ∨ EndsWord tail →
        lexeme '/' (cs.take (n + ((cs.drop n).takeWhile Char.isAlpha).length) ++ tail) = lexeme '/' cs := by
  obtain ⟨hle, hstable⟩ := regexBody_stable hbody
  obtain ⟨htake, hdrop⟩ := take_length_takeWhile Char.isAlpha (cs.drop n)
  have hlength : ((cs.drop n).takeWhile Char.isAlpha).length ≤ (cs.drop n).length := (List.takeWhile_prefix _).length_le
  rw [List.length_drop] at hlength
  refine ⟨by omega, fun tail htail => ?_⟩
  have hflags : ((cs.drop n).takeWhile Char.isAlpha ++ tail).takeWhile Char.isAlpha =
      (cs.drop n).takeWhile Char.isAlpha := by
    apply takeWhile_stable
    rw [← List.drop_drop, hdrop] at htail
    exact htail.imp_right fun hend d hd => (hend d hd).2
  have hafter : (cs.take n ++ ((cs.drop n).takeWhile Char.isAlpha ++ tail)).drop n =
      (cs.drop n).takeWhile Char.isAlpha ++ tail := by
    rw [List.drop_append_of_le_length (by rw [List.length_take]; omega), List.drop_take_self, List.nil_append]
  rw [List.take_add, htake, List.append_assoc]
  simp [lexeme, punctuation?, hstable, hbody, hafter, hflags]

theorem lexeme_word_stable (hc : startsIdentifier c = true) {tail : List Char}
    (htail : tail.head? = (cs.drop (cs.takeWhile continuesIdentifier).length).head? ∨ EndsWord tail) :
    lexeme c (cs.take (cs.takeWhile continuesIdentifier).length ++ tail) = lexeme c cs := by
  obtain ⟨-, -, hpunct, hdouble, hsingle, hslash⟩ := startsIdentifier_only hc
  obtain ⟨htake, hdrop⟩ := take_length_takeWhile continuesIdentifier cs
  have hmore : (cs.takeWhile continuesIdentifier ++ tail).takeWhile continuesIdentifier =
      cs.takeWhile continuesIdentifier := by
    apply takeWhile_stable
    rw [hdrop] at htail
    exact htail.imp_right fun hend d hd => (hend d hd).1
  rw [htake]
  simp [lexeme, hpunct, hdouble, hsingle, hslash, hc, hmore]

/-- A token that is not faulty is read in the same way before another text, if that starts with the same character or
does not continue a word. -/
theorem lexeme_stable {kind : TokenKind} {n : Nat} (h : lexeme c cs = (kind, n))
    (hknown : ∀ text, kind ≠ .unknown text) :
    n ≤ cs.length ∧ ∀ tail, tail.head? = (cs.drop n).head? ∨ EndsWord tail →
      lexeme c (cs.take n ++ tail) = (kind, n) := by
  have hread := h
  unfold lexeme at h
  cases hpunct : punctuation? c with
  | some mark =>
    simp only [hpunct] at h
    cases h
    refine ⟨Nat.zero_le _, fun tail _ => ?_⟩
    simp only [lexeme, hpunct]
  | none =>
    simp only [hpunct] at h
    split_ifs at h with hquote hslash hword
    · cases hbody : stringBody c cs with
      | none =>
        rw [hbody] at h
        cases h
        exact absurd rfl (hknown _)
      | some found =>
        rw [hbody] at h
        cases h
        obtain ⟨hle, hstable⟩ := stringBody_stable hbody
        refine ⟨hle, fun tail _ => ?_⟩
        simp only [lexeme, hpunct, hquote, if_true, hstable]
    · cases hbody : regexBody cs with
      | mk found m =>
        rw [hbody] at h
        cases found with
        | none =>
          cases h
          exact absurd rfl (hknown _)
        | some pattern =>
          cases h
          cases hslash
          rw [← hread]
          exact lexeme_regex_stable hbody
    · cases h
      rw [← hread]
      exact ⟨(List.takeWhile_prefix _).length_le, fun tail htail => lexeme_word_stable hword htail⟩
    · cases h
      exact absurd rfl (hknown _)

/-! ## Trivia before a token -/

/-- The token `t` of the text `a ++ b`, at the place `p`, starts with `b`. To put `w` there leaves the tokens before
it as they are, and moves it and those after it. -/
def Inserts (w : List Char) (p : Position) (a b : List Char) (t : Token) : Prop :=
  ∃ early late moved, tokensFrom p (a ++ b) = early ++ t :: late ∧ tokensFrom p (a ++ (w ++ b)) = early ++ moved ∧
    Shifted (byteLength w) (t :: late) moved

theorem inserts_first (hw : IsTrivia w) {late : List Token} (h : tokensFrom p b = t :: late) : Inserts w p [] b t := by
  have hmoved := tokensFrom_trivia_shifted hw p b
  rw [h] at hmoved
  exact ⟨[], late, _, h, rfl, hmoved⟩

theorem Inserts.blank (hblank : Text.isBlank c = true) (h : Inserts w (p.step c) a b t) : Inserts w p (c :: a) b t := by
  unfold Inserts
  rw [List.cons_append, List.cons_append, tokensFrom_blank hblank, tokensFrom_blank hblank]
  exact h

theorem Inserts.comment {text : List Char} (htext : '\n' ∉ text)
    (h : Inserts w (p.advance ('#' :: text)) ('\n' :: a) b t) :
    Inserts w p ('#' :: (text ++ '\n' :: a)) b t := by
  have hskip (rest : List Char) : tokensFrom p ('#' :: (text ++ '\n' :: a) ++ rest) =
      tokensFrom (p.advance ('#' :: text)) ('\n' :: a ++ rest) := by
    obtain ⟨htake, hdrop⟩ := takeWhile_line htext (a ++ rest)
    rw [List.cons_append, List.append_assoc, List.cons_append, tokensFrom_comment, htake, hdrop]
  unfold Inserts
  rw [hskip, hskip]
  exact h

/-- In a comment that ends with the text, trivia go on with the comment, up to the end of a line if they hold one. -/
theorem inserts_open_comment (hw : IsTrivia w) (ha : '\n' ∉ a) (ht : t ∈ tokensFrom p ('#' :: a)) :
    Inserts w p ('#' :: a) [] t := by
  have hread (w : List Char) (hw : IsTrivia w) :
      tokensFrom p ('#' :: (a ++ w)) = [⟨.eof, p.advance ('#' :: (a ++ w))⟩] := by
    obtain ⟨htake, hdrop⟩ := takeWhile_append_line ha w
    have hsplit := List.takeWhile_append_dropWhile (p := fun d => decide (d ≠ '\n')) (l := w)
    have hrest := tokensFrom_trivia hw.dropLine (p.advance ('#' :: (a ++ w.takeWhile (· ≠ '\n')))) []
    rw [List.append_nil, tokensFrom_nil, ← Position.advance_append, List.cons_append, List.append_assoc,
      hsplit] at hrest
    rw [tokensFrom_comment, htake, hdrop]
    exact hrest
  have hold := hread [] .nil
  rw [List.append_nil] at hold
  rw [hold, List.mem_singleton] at ht
  refine ⟨[], [], [⟨.eof, p.advance ('#' :: (a ++ w))⟩], ?_, ?_, ?_⟩
  · rw [ht, List.append_nil]
    exact hold
  · rw [List.append_nil, List.cons_append]
    exact hread w hw
  · rw [ht]
    refine .cons rfl ?_ ⟨rfl, rfl⟩
    simp only [Position.offset_advance, Text.byteLength_cons, Text.byteLength_append]
    omega

/-- What follows a token and starts like the text did, or with trivia, is no part of the token. -/
theorem Inserts.lexeme {kind : TokenKind} {text : List Char} (hw : IsTrivia w) (hblank : ¬Text.isBlank c = true)
    (hhash : c ≠ '#') (hlex : lexeme c (text ++ (a ++ b)) = (kind, text.length)) (hknown : ∀ text, kind ≠ .unknown text)
    (h : Inserts w (p.advance (c :: text)) a b t) : Inserts w p (c :: (text ++ a)) b t := by
  have hnext : (a ++ (w ++ b)).head? = (a ++ b).head? ∨ EndsWord (a ++ (w ++ b)) := by
    cases a with
    | cons d a => exact Or.inl rfl
    | nil =>
      by_cases hne : w = []
      · rw [hne]
        exact Or.inl rfl
      · exact Or.inr (hw.endsWord hne b)
  have hstable := (lexeme_stable hlex hknown).2 (a ++ (w ++ b))
  rw [List.drop_left, List.take_left] at hstable
  have hstep (rest : List Char) (hread : Query.lexeme c (text ++ (a ++ rest)) = (kind, text.length)) :
      tokensFrom p (c :: (text ++ a) ++ rest) = ⟨kind, p⟩ :: tokensFrom (p.advance (c :: text)) (a ++ rest) := by
    rw [List.cons_append, List.append_assoc, tokensFrom_lexeme hblank hhash, hread]
    dsimp only
    rw [List.drop_left, List.take_left]
  obtain ⟨early, late, moved, hold, hnew, hmoved⟩ := h
  refine ⟨⟨kind, p⟩ :: early, late, moved, ?_, ?_, hmoved⟩
  · rw [hstep b hlex, hold, List.cons_append]
  · rw [hstep (w ++ b) (hstable hnext), hnew, List.cons_append]

/-- Within a comment there is no token unless the text ends there. -/
theorem eq_nil_of_in_comment (ha : '\n' ∉ a) (ht : t ∈ tokensFrom p ('#' :: (a ++ b)))
    (hoffset : t.position.offset = p.offset + byteLength ('#' :: a)) : b = [] := by
  obtain ⟨htake, hdrop⟩ := takeWhile_append_line ha b
  rw [tokensFrom_comment, htake, hdrop] at ht
  cases b with
  | nil => rfl
  | cons d b =>
    have hpos := d.utf8Size_pos
    by_cases hd : d = '\n'
    · -- the next token starts after the end of the line
      rw [List.takeWhile_cons_of_neg (by simpa using hd), List.dropWhile_cons_of_neg (by simpa using hd),
        List.append_nil, tokensFrom_blank (by rw [hd]; decide)] at ht
      have hle := (tokensFrom_tokensAt _ _).offset_le t ht
      rw [Position.offset_step, Position.offset_advance] at hle
      omega
    · -- the next token starts after the comment, which holds another character
      rw [List.takeWhile_cons_of_pos (by simpa using hd)] at ht
      have hle := (tokensFrom_tokensAt _ _).offset_le t ht
      rw [Position.offset_advance] at hle
      simp only [Text.byteLength_cons, Text.byteLength_append] at hle hoffset
      omega

/-- Trivia before any token. By induction on the steps of the lexer: the place of a token lies neither in another
token nor before a blank. -/
theorem tokensFrom_insert (hw : IsTrivia w) (p : Position) (cs : List Char) :
    ∀ a b, cs = a ++ b → (∀ u ∈ tokensFrom p cs, ∀ text, u.kind ≠ .unknown text) →
      ∀ t ∈ tokensFrom p cs, t.position.offset = p.offset + byteLength a → Inserts w p a b t := by
  fun_induction tokensFrom p cs with
  | case1 p =>
    intro a b hab _ t ht _
    obtain ⟨rfl, rfl⟩ := List.append_eq_nil_iff.mp hab.symm
    rw [List.mem_singleton.mp ht]
    exact inserts_first hw (tokensFrom_nil p)
  | case2 p c cs hblank ih =>
    intro a b hab hclean t ht hoffset
    have hle := (tokensFrom_tokensAt _ _).offset_le t ht
    have hpos := c.utf8Size_pos
    rw [Position.offset_step] at hle
    rcases List.cons_eq_append_iff.mp hab with ⟨rfl, -⟩ | ⟨a, rfl, rfl⟩
    · rw [Text.byteLength_nil] at hoffset
      omega
    · apply Inserts.blank hblank
      apply ih a b rfl hclean t ht
      rw [hoffset, Position.offset_step, Text.byteLength_cons]
      omega
  | case3 p cs hblank ih =>
    intro a b hab hclean t ht hoffset
    rcases List.cons_eq_append_iff.mp hab with ⟨rfl, -⟩ | ⟨a, rfl, rfl⟩
    · have hle := (tokensFrom_tokensAt _ _).offset_le t ht
      have hpos := Text.byteLength_pos (List.cons_ne_nil '#' (cs.takeWhile (· ≠ '\n')))
      rw [Position.offset_advance] at hle
      rw [Text.byteLength_nil] at hoffset
      omega
    · by_cases hline : '\n' ∈ a
      · obtain ⟨text, more, rfl, htext⟩ := List.eq_append_cons_of_mem hline
        obtain ⟨htake, hdrop⟩ := takeWhile_line htext (more ++ b)
        rw [List.append_assoc, List.cons_append, htake, hdrop] at ih ht hclean
        apply Inserts.comment htext
        apply ih ('\n' :: more) b rfl hclean t ht
        rw [hoffset, Position.offset_advance]
        simp only [Text.byteLength_cons, Text.byteLength_append]
        omega
      · rw [← tokensFrom_comment] at ht
        obtain rfl := eq_nil_of_in_comment hline ht hoffset
        rw [List.append_nil] at ht
        exact inserts_open_comment hw hline ht
  | case4 p c cs hblank hhash kind n hlex ih =>
    intro a b hab hclean t ht hoffset
    obtain ⟨hknown, hclean⟩ := List.forall_mem_cons.mp hclean
    rcases List.mem_cons.mp ht with rfl | ht
    · -- the token itself stands at the start of the text
      have hzero : a = [] := Text.byteLength_eq_zero.mp (by dsimp only at hoffset; omega)
      subst hzero
      rw [List.nil_append] at hab
      have hread := tokensFrom_lexeme hblank hhash p cs
      rw [hlex, hab] at hread
      exact inserts_first hw hread
    · have hle := (tokensFrom_tokensAt _ _).offset_le t ht
      rw [Position.offset_advance, hoffset] at hle
      have hsplit : (c :: cs.take n) ++ cs.drop n = a ++ b := by rw [List.cons_append, List.take_append_drop, hab]
      obtain ⟨rest, rfl, hdrop⟩ := Text.split_le hsplit (by omega)
      have hlength : (cs.take n).length = n := by
        have hn := (lexeme_stable hlex hknown).1
        rw [List.length_take]
        omega
      have hread : lexeme c (cs.take n ++ (rest ++ b)) = (kind, (cs.take n).length) := by
        rw [← hdrop, List.take_append_drop, hlex, hlength]
      rw [List.cons_append]
      apply Inserts.lexeme hw hblank hhash hread hknown
      apply ih rest b hdrop hclean t ht
      rw [hoffset, Position.offset_advance, Text.byteLength_append]
      omega

/-! ## Queries -/

theorem parse_eq_ok_iff (tokens : List Token) (q : Query) :
    parse tokens = .ok q ↔ ∃ e, takeQuery tokens = .ok e ∧ q = { expression := e } := by
  unfold parse
  cases takeQuery tokens with
  | error fault => simp
  | ok e => simp [eq_comm]

theorem takeQuery_of_kinds {ts us : List Token} {e : Expr} (h : us.map Token.kind = ts.map Token.kind)
    (hread : takeQuery ts = .ok e) : takeQuery us = .ok e := by
  obtain ⟨used, last, rest, rfl, hlast, hx⟩ := (takeQuery_ok_iff _ _).mp hread
  rw [List.map_append, List.map_cons] at h
  obtain ⟨used', back, rfl, hused, hback⟩ := List.map_eq_append_iff.mp h
  obtain ⟨last', rest', rfl, hlast', -⟩ := List.map_eq_cons_iff.mp hback
  refine (takeQuery_ok_iff _ _).mpr ⟨used', last', rest', rfl, hlast'.trans hlast, ?_⟩
  rwa [hused]

theorem parse_of_kinds {ts us : List Token} (h : us.map Token.kind = ts.map Token.kind) (q : Query) :
    parse us = .ok q ↔ parse ts = .ok q := by
  rw [parse_eq_ok_iff, parse_eq_ok_iff]
  constructor
  · rintro ⟨e, hread, rfl⟩
    exact ⟨e, takeQuery_of_kinds h.symm hread, rfl⟩
  · rintro ⟨e, hread, rfl⟩
    exact ⟨e, takeQuery_of_kinds h hread, rfl⟩

/-- **Blanks and comments mean nothing.** In a text without faulty tokens, blanks and whole comments can be put before
any token, the end marker among them: the tokens before it stay, it and those after it move by as many bytes, and the
text is the same query, or none, as before. -/
theorem trivia_insignificant (before after trivia : String) (t : Token)
    (hclean : ∀ u ∈ tokenize (before ++ after), ∀ text, u.kind ≠ .unknown text)
    (ht : t ∈ tokenize (before ++ after)) (hoffset : t.position.offset = before.utf8ByteSize)
    (hw : IsTrivia trivia.toList) :
    (∃ early late moved, tokenize (before ++ after) = early ++ t :: late ∧
      tokenize (before ++ trivia ++ after) = early ++ moved ∧
      moved.map Token.kind = (t :: late).map Token.kind ∧
      moved.map (·.position.offset) = (t :: late).map (·.position.offset + trivia.utf8ByteSize)) ∧
    ∀ q, parseQuery (before ++ trivia ++ after) = .ok q ↔ parseQuery (before ++ after) = .ok q := by
  have hplace : t.position.offset = Position.start.offset + byteLength before.toList := by
    rw [hoffset, Text.byteLength_toList]
    exact (Nat.zero_add _).symm
  obtain ⟨early, late, moved, hold, hnew, hkinds, hoffsets⟩ :=
    tokensFrom_insert hw .start (before ++ after).toList before.toList after.toList String.toList_append
      hclean t ht hplace
  rw [← String.toList_append] at hold
  rw [← String.toList_append, ← String.toList_append, ← String.append_assoc] at hnew
  rw [Text.byteLength_toList] at hoffsets
  refine ⟨⟨early, late, moved, hold, hnew, hkinds, hoffsets⟩, fun q => ?_⟩
  apply parse_of_kinds
  rw [tokenize, tokenize, hold, hnew, List.map_append, List.map_append, hkinds]

/-- A query that ends in a comment, which is continued and followed by another one. -/
theorem trivia_insignificant_in_comment :
    let source := "\x7bCall: /e/i\x7d # é"
    let trivia := "\t#x\n\u3000#\n"
    let t : Token := ⟨.eof, ⟨17, 1, 17⟩⟩
    t ∈ tokenize (source ++ "") ∧ IsTrivia trivia.toList ∧
      ∀ q, parseQuery (source ++ trivia ++ "") = .ok q ↔ parseQuery (source ++ "") = .ok q := by
  intro source trivia t
  have ht : t ∈ tokenize (source ++ "") := by decide +kernel
  have hkinds : (tokenize (source ++ "")).map Token.kind =
      [.leftBrace, .identifier "Call", .colon, .regex "e" "i", .rightBrace, .eof] := by decide +kernel
  have hclean : ∀ u ∈ tokenize (source ++ ""), ∀ text, u.kind ≠ .unknown text := by
    intro u hu text htext
    have hmem := List.mem_map_of_mem (f := Token.kind) hu
    rw [hkinds, htext] at hmem
    simp at hmem
  have hw : IsTrivia trivia.toList := by
    have htext : trivia.toList = '\t' :: '#' :: (['x'] ++ '\n' :: '\u3000' :: '#' :: ([] ++ ['\n'])) := by decide
    rw [htext]
    exact .blank (by decide) (.comment (by decide) (.blank (by decide) (.comment (by decide) .nil)))
  exact ⟨ht, hw, (trivia_insignificant source "" trivia t hclean ht (by decide) hw).2⟩

end SourceAudit.Query
