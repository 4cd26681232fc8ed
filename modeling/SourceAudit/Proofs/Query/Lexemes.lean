import Mathlib.Tactic.SplitIfs
import SourceAudit.Proofs.Text.Blank
import SourceAudit.Query.Lexer

/-!
# What the tokens of a text can be

* `IsIdentifier name` : the name is written like an identifier and is no keyword;
* `IsRegexText cs` : the text can stand between the slashes of a regular expression;
* `TokenKind.Spellable` : the kinds of tokens that a text can hold, those of faulty texts and the end marker apart;
* `tokenize_kinds` : every token of a text is of such a kind, or faulty, or the end marker;
* `TokenKind.spell`, `spellAll` : how tokens are written;
* `tokenize_spellAll` : what is written is read as the same tokens.
-/

namespace SourceAudit.Query

/-- A name that is read as an identifier: a letter, underscore or dollar sign, then letters, numbers, underscores,
dollar signs, dots and hyphens; and it is no keyword, whatever the case of its basic letters. -/
def IsIdentifier (name : String) : Prop :=
  (∃ c cs, name.toList = c :: cs ∧ startsIdentifier c = true ∧ ∀ d ∈ cs, continuesIdentifier d = true) ∧
    ∀ k : Keyword, k.name.toList ≠ Text.asciiUpper name.toList

/-- The text splits, from left to right, into characters other than a backslash and a line feed, and pairs of a
backslash and a character other than a slash. -/
inductive IsRegexText : List Char → Prop where
  | nil : IsRegexText []
  | plain {c : Char} {cs : List Char} : c ≠ '\\' → c ≠ '\n' → IsRegexText cs → IsRegexText (c :: cs)
  | escape {d : Char} {cs : List Char} : d ≠ '/' → IsRegexText cs → IsRegexText ('\\' :: d :: cs)

/-- The kinds of tokens that a text without faults can hold before its end. -/
def TokenKind.Spellable : TokenKind → Prop
  | .identifier name => IsIdentifier name
  | .regex pattern flags => IsRegexText pattern.toList ∧ ∀ c ∈ flags.toList, c.isAlpha = true
  | .unknown _ => False
  | .eof => False
  | _ => True

/-! ## Characters -/

theorem not_startsIdentifier_of_isBlank {c : Char} (h : Text.isBlank c = true) : startsIdentifier c = false :=
  Text.eq_false_of_isBlank (by decide +kernel) h

theorem not_continuesIdentifier_space : ¬continuesIdentifier ' ' = true := by decide +kernel

theorem not_startsIdentifier_of_punctuation {c : Char} {kind : TokenKind} (h : punctuation? c = some kind) :
    startsIdentifier c = false := by
  unfold punctuation? at h
  split at h
  case h_10 => cases h
  all_goals decide

theorem startsIdentifier_only {c : Char} (h : startsIdentifier c = true) :
    Text.isBlank c = false ∧ c ≠ '#' ∧ punctuation? c = none ∧ c ≠ '\x22' ∧ c ≠ '\x27' ∧ c ≠ '/' := by
  have hne (d : Char) (hd : startsIdentifier d = false) : c ≠ d := by
    rintro rfl
    simp [h] at hd
  refine ⟨?_, hne _ (by decide), ?_, hne _ (by decide), hne _ (by decide), hne _ (by decide)⟩
  · refine Bool.eq_false_iff.mpr fun hb => ?_
    simp [not_startsIdentifier_of_isBlank hb] at h
  · refine Option.eq_none_iff_forall_ne_some.mpr fun kind hk => ?_
    simp [not_startsIdentifier_of_punctuation hk] at h

/-! ## From texts to tokens -/

theorem ofName?_eq_none_iff (word : String) : Keyword.ofName? word = none ↔ ∀ k : Keyword, k.name ≠ word := by
  rw [Keyword.ofName?, List.find?_eq_none]
  constructor
  · intro h k hk
    refine h k ?_ (by simpa using hk)
    cases k <;> decide
  · intro h k _
    simpa using h k

theorem wordKind_spellable {c : Char} {cs : List Char} (hc : startsIdentifier c = true)
    (hcs : ∀ d ∈ cs, continuesIdentifier d = true) : (wordKind (c :: cs)).Spellable := by
  unfold wordKind
  cases hk : Keyword.ofName? (String.ofList (Text.asciiUpper (c :: cs))) with
  | some k => trivial
  | none =>
    refine ⟨⟨c, cs, String.toList_ofList, hc, hcs⟩, fun k hname => ?_⟩
    refine (ofName?_eq_none_iff _).mp hk k ?_
    rw [← String.toList_inj, hname, String.toList_ofList, String.toList_ofList]

theorem regexBody_isRegexText (cs : List Char) : ∀ pattern, (regexBody cs).1 = some pattern → IsRegexText pattern := by
  fun_induction regexBody cs with
  | case1 => nofun
  | case2 cs =>
    rintro _ ⟨⟩
    exact .nil
  | case3 | case4 => nofun
  | case5 d ds pattern n hrest hslash hline ih =>
    intro p hp
    rw [hrest] at ih
    obtain ⟨q, hq, rfl⟩ := Option.map_eq_some_iff.mp hp
    split_ifs with hd
    · exact .plain (by decide) (by decide) (ih q hq)
    · exact .escape hd (ih q hq)
  | case6 c cs hslash hline hback pattern n hrest ih =>
    intro p hp
    rw [hrest] at ih
    obtain ⟨q, hq, rfl⟩ := Option.map_eq_some_iff.mp hp
    exact .plain hback hline (ih q hq)

theorem punctuation?_spellable {c : Char} {kind : TokenKind} (h : punctuation? c = some kind) : kind.Spellable := by
  unfold punctuation? at h
  split at h
  all_goals cases h
  all_goals trivial

theorem lexeme_spellable (c : Char) (cs : List Char) :
    (∃ text, (lexeme c cs).1 = .unknown text) ∨ (lexeme c cs).1.Spellable := by
  unfold lexeme
  split
  · rename_i kind hkind
    exact Or.inr (punctuation?_spellable hkind)
  · split
    · split
      · exact Or.inr trivial
      · exact Or.inl ⟨_, rfl⟩
    · split
      · split
        · rename_i pattern n hbody
          refine Or.inr ⟨?_, ?_⟩
          · rw [String.toList_ofList]
            exact regexBody_isRegexText cs pattern (by rw [hbody])
          · rw [String.toList_ofList]
            exact List.all_eq_true.mp List.all_takeWhile
        · exact Or.inl ⟨_, rfl⟩
      · split
        · rename_i hc
          exact Or.inr (wordKind_spellable hc (List.all_eq_true.mp List.all_takeWhile))
        · exact Or.inl ⟨_, rfl⟩

theorem tokensFrom_kinds (p : Position) (cs : List Char) :
    ∀ t ∈ tokensFrom p cs, t.kind = .eof ∨ (∃ text, t.kind = .unknown text) ∨ t.kind.Spellable := by
  fun_induction tokensFrom p cs with
  | case1 p =>
    intro t ht
    rw [List.mem_singleton.mp ht]
    exact Or.inl rfl
  | case2 p c cs hblank ih => exact ih
  | case3 p c hblank ih => exact ih
  | case4 p c cs hblank hhash kind n hlex ih =>
    intro t ht
    rcases List.mem_cons.mp ht with rfl | ht
    · have := lexeme_spellable c cs
      rw [hlex] at this
      exact Or.inr this
    · exact ih t ht

/-- Every token of a text but the faulty ones and the end marker is spellable. -/
theorem tokenize_kinds (source : String) :
    ∀ t ∈ tokenize source, t.kind = .eof ∨ (∃ text, t.kind = .unknown text) ∨ t.kind.Spellable :=
  tokensFrom_kinds .start source.toList

/-! ## From tokens to texts -/

/-- The inside of a string: quotes and backslashes are escaped. -/
def spellString : List Char → List Char
  | [] => []
  | c :: cs => if c = '\x22' ∨ c = '\\' then '\\' :: c :: spellString cs else c :: spellString cs

/-- The inside of a regular expression: slashes are escaped, and what is escaped already stays as it is. -/
def spellRegex : List Char → List Char
  | '\\' :: d :: cs => '\\' :: d :: spellRegex cs
  | c :: cs => if c = '/' then '\\' :: '/' :: spellRegex cs else c :: spellRegex cs
  | [] => []

def TokenKind.spell : TokenKind → List Char
  | .keyword k => k.name.toList
  | .leftParen => ['(']
  | .rightParen => [')']
  | .leftBrace => ['\x7b']
  | .rightBrace => ['\x7d']
  | .leftBracket => ['[']
  | .rightBracket => [']']
  | .colon => [':']
  | .comma => [',']
  | .pipe => ['|']
  | .identifier name => name.toList
  | .string value => '\x22' :: (spellString value.toList ++ ['\x22'])
  | .regex pattern flags => '/' :: (spellRegex pattern.toList ++ '/' :: flags.toList)
  | .unknown text => text.toList
  | .eof => []

/-- How tokens are written, with a space after each. -/
def spellAll (ks : List TokenKind) : List Char := ks.flatMap fun k => k.spell ++ [' ']

theorem stringBody_close (quote : Char) (rest : List Char) : stringBody quote (quote :: rest) = some ([], 1) := by
  rw [stringBody.eq_def]
  simp

theorem stringBody_plain {quote c : Char} (hquote : c ≠ quote) (hback : c ≠ '\\') (cs : List Char) :
    stringBody quote (c :: cs) = (stringBody quote cs).map fun (value, n) => (c :: value, n + 1) := by
  rw [stringBody.eq_def]
  simp [hquote, hback]

theorem stringBody_escape {quote : Char} (hquote : '\\' ≠ quote) (d : Char) (ds : List Char) :
    stringBody quote ('\\' :: d :: ds) = (stringBody quote ds).map fun (value, n) => (unescape d :: value, n + 2) := by
  rw [stringBody.eq_def]
  simp [hquote]

theorem stringBody_spellString (cs rest : List Char) :
    stringBody '\x22' (spellString cs ++ '\x22' :: rest) = some (cs, (spellString cs).length + 1) := by
  induction cs with
  | nil => exact stringBody_close '\x22' rest
  | cons c cs ih =>
    rw [spellString]
    split_ifs with hc
    · -- a quote or a backslash stands for itself after a backslash
      have hself : unescape c = c := by rcases hc with rfl | rfl <;> rfl
      rw [List.cons_append, List.cons_append, stringBody_escape (by decide), ih, Option.map_some, hself]
      rfl
    · obtain ⟨hquote, hback⟩ := not_or.mp hc
      rw [List.cons_append, stringBody_plain hquote hback, ih, Option.map_some]
      rfl

theorem regexBody_close (rest : List Char) : regexBody ('/' :: rest) = (some [], 1) := by
  rw [regexBody.eq_def]
  simp

theorem regexBody_plain {c : Char} (hslash : c ≠ '/') (hline : c ≠ '\n') (hback : c ≠ '\\') (cs : List Char) :
    regexBody (c :: cs) = ((regexBody cs).1.map (c :: ·), (regexBody cs).2 + 1) := by
  rw [regexBody.eq_def]
  simp [hslash, hline, hback]

theorem regexBody_escape (d : Char) (ds : List Char) :
    regexBody ('\\' :: d :: ds) =
      ((regexBody ds).1.map fun p => if d = '/' then '/' :: p else '\\' :: d :: p, (regexBody ds).2 + 2) := by
  rw [regexBody.eq_def]
  simp

theorem regexBody_spellRegex {cs : List Char} (h : IsRegexText cs) (rest : List Char) :
    regexBody (spellRegex cs ++ '/' :: rest) = (some cs, (spellRegex cs).length + 1) := by
  induction h with
  | nil => exact regexBody_close rest
  | @plain c cs hback hline _ ih =>
    rw [spellRegex]
    · split_ifs with hslash
      · subst hslash
        rw [List.cons_append, List.cons_append, regexBody_escape, ih]
        rfl
      · rw [List.cons_append, regexBody_plain hslash hline hback, ih]
        rfl
    · intro d ds hc
      exact absurd hc hback
  | @escape d cs hd _ ih =>
    rw [spellRegex, List.cons_append, List.cons_append, regexBody_escape, ih]
    simp [hd]

/-- A word that ends before a space is read as a whole. -/
theorem lexeme_word {c : Char} {cs : List Char} (hc : startsIdentifier c = true)
    (hcs : ∀ d ∈ cs, continuesIdentifier d = true) (rest : List Char) :
    lexeme c (cs ++ ' ' :: rest) = (wordKind (c :: cs), cs.length) := by
  obtain ⟨-, -, hpunct, hdouble, hsingle, hslash⟩ := startsIdentifier_only hc
  have hmore : (cs ++ ' ' :: rest).takeWhile continuesIdentifier = cs := by
    rw [List.takeWhile_append_of_pos hcs, List.takeWhile_cons_of_neg not_continuesIdentifier_space, List.append_nil]
  unfold lexeme
  simp only [hpunct, hdouble, hsingle, hslash, hc, hmore, decide_false, Bool.or_self, Bool.false_eq_true,
    if_false, if_true]

/-- A token, written with a space after it, is read as itself, and the space is left. -/
theorem lexeme_spell {k : TokenKind} (h : k.Spellable) :
    ∃ c cs, k.spell = c :: cs ∧ Text.isBlank c = false ∧ c ≠ '#' ∧
      ∀ rest, lexeme c (cs ++ ' ' :: rest) = (k, cs.length) := by
  cases k with
  | keyword k =>
    have hfirst : ∃ c cs, k.name.toList = c :: cs ∧ startsIdentifier c = true ∧
        (∀ d ∈ cs, continuesIdentifier d = true) ∧ wordKind (c :: cs) = .keyword k := by
      cases k <;> exact ⟨_, _, rfl, by decide, List.all_eq_true.mp (by decide +kernel), by decide⟩
    obtain ⟨c, cs, hk, hc, hcs, hword⟩ := hfirst
    obtain ⟨hblank, hhash, -⟩ := startsIdentifier_only hc
    exact ⟨c, cs, hk, hblank, hhash, fun rest => hword ▸ lexeme_word hc hcs rest⟩
  | identifier name =>
    obtain ⟨⟨c, cs, hname, hc, hcs⟩, hkey⟩ := h
    obtain ⟨hblank, hhash, -⟩ := startsIdentifier_only hc
    refine ⟨c, cs, hname, hblank, hhash, fun rest => ?_⟩
    have hnone : Keyword.ofName? (String.ofList (Text.asciiUpper (c :: cs))) = none := by
      rw [ofName?_eq_none_iff]
      intro k hk
      refine hkey k ?_
      rw [hk, String.toList_ofList, hname]
    rw [lexeme_word hc hcs, wordKind, hnone, ← hname, String.ofList_toList]
  | string value =>
    refine ⟨'\x22', _, rfl, by decide, by decide, fun rest => ?_⟩
    rw [List.append_assoc, List.singleton_append]
    simp [lexeme, punctuation?, stringBody_spellString]
  | regex pattern flags =>
    obtain ⟨hpattern, hflags⟩ := h
    refine ⟨'/', _, rfl, by decide, by decide, fun rest => ?_⟩
    have htake : (flags.toList ++ ' ' :: rest).takeWhile Char.isAlpha = flags.toList := by
      rw [List.takeWhile_append_of_pos hflags, List.takeWhile_cons_of_neg (by decide), List.append_nil]
    have hdrop (tail : List Char) :
        (spellRegex pattern.toList ++ '/' :: tail).drop ((spellRegex pattern.toList).length + 1) = tail := by
      rw [← List.drop_drop, List.drop_left, List.drop_one, List.tail_cons]
    rw [List.append_assoc, List.cons_append]
    simp only [lexeme, punctuation?, regexBody_spellRegex hpattern, hdrop, htake]
    simp
    omega
  | unknown text => cases h
  | eof => cases h
  | leftParen | rightParen | leftBrace | rightBrace | leftBracket | rightBracket | colon | comma | pipe =>
    exact ⟨_, _, rfl, by decide, by decide, fun rest => rfl⟩

theorem tokensFrom_spellAll {ks : List TokenKind} (h : ∀ k ∈ ks, k.Spellable) (p : Position) :
    (tokensFrom p (spellAll ks)).map Token.kind = ks ++ [.eof] := by
  induction ks generalizing p with
  | nil =>
    rw [spellAll, List.flatMap_nil, tokensFrom.eq_def]
    rfl
  | cons k ks ih =>
    obtain ⟨hk, hks⟩ := List.forall_mem_cons.mp h
    obtain ⟨c, cs, hspell, hblank, hhash, hlex⟩ := lexeme_spell hk
    have htext : spellAll (k :: ks) = c :: (cs ++ ' ' :: spellAll ks) := by
      simp [spellAll, hspell]
    have hdrop : (cs ++ ' ' :: spellAll ks).drop cs.length = ' ' :: spellAll ks := List.drop_left
    rw [htext, tokensFrom.eq_def]
    simp only [hblank, hhash, hlex, hdrop, Bool.false_eq_true, if_false, List.map_cons, List.cons_append]
    rw [tokensFrom.eq_def]
    simp only [show Text.isBlank ' ' = true from by decide, if_true, ih hks]

theorem tokenize_spellAll {ks : List TokenKind} (h : ∀ k ∈ ks, k.Spellable) :
    (tokenize (String.ofList (spellAll ks))).map Token.kind = ks ++ [.eof] := by
  rw [tokenize, String.toList_ofList]
  exact tokensFrom_spellAll h .start

end SourceAudit.Query
