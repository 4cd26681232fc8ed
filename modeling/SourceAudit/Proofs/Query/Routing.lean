import Mathlib.Tactic.SplitIfs
import SourceAudit.Analysis
import SourceAudit.Proofs.Outline.Shape
import SourceAudit.Proofs.Query.Image

/-!
# Queries are told from older patterns

The first character of a text that opens something, and its first character that is not blank, tell a query from a
selector and from a flow.

* `openers`, `opener?` : the characters that open a part of a pattern or a comment, and the first of them in a text;
* `lexeme_cases`, `first_token` : what the first token of a text tells about its characters;
* `mem_of_mark` : the marks among the tokens of a text stand in the text;
* `colon_mem`, `expression_first` : every expression holds a colon and starts in one of two ways;
* `query_start` : where a query starts, no older pattern can;
* `flowShape_first`, `selectorShape_opener` : how older patterns start;
* `parseQuery_routed` : a text that is a query is run as one, and is no older pattern.
-/

namespace SourceAudit

namespace Query

open Grammar

variable {c d : Char} {cs : List Char} {k : TokenKind} {p : Position} {t : Token} {ts : List Token}

/-! ## Marks and words -/

/-- A token of one character that always stands for itself. -/
def TokenKind.isMark : TokenKind → Bool
  | .leftParen | .rightParen | .leftBrace | .rightBrace | .leftBracket | .rightBracket | .colon | .comma | .pipe => true
  | _ => false

theorem isMark_of_punctuation (h : punctuation? c = some k) : k.isMark = true ∧ k.spell = [c] := by
  unfold punctuation? at h
  split at h
  all_goals cases h
  all_goals exact ⟨rfl, rfl⟩

theorem isMark_wordKind (word : List Char) : (wordKind word).isMark = false := by
  unfold wordKind
  split <;> rfl

/-- A token is the mark of its first character, or no mark at all; and a keyword is a whole word. -/
theorem lexeme_cases (c : Char) (cs : List Char) :
    punctuation? c = some (lexeme c cs).1 ∨ ((lexeme c cs).1.isMark = false ∧
      ∀ word, (lexeme c cs).1 = .keyword word → startsIdentifier c = true ∧
        wordKind (c :: cs.takeWhile continuesIdentifier) = .keyword word ∧
        (lexeme c cs).2 = (cs.takeWhile continuesIdentifier).length) := by
  unfold lexeme
  split
  · rename_i kind hkind
    exact .inl hkind
  · right
    split_ifs with hquote hslash hword
    · split <;> exact ⟨rfl, nofun⟩
    · split <;> exact ⟨rfl, nofun⟩
    · exact ⟨isMark_wordKind _, fun word h => ⟨hword, h, rfl⟩⟩
    · exact ⟨rfl, nofun⟩

theorem eq_of_lexeme_mark (hd : punctuation? d = some k) (h : (lexeme c cs).1 = k) : c = d := by
  obtain ⟨hmark, hspell⟩ := isMark_of_punctuation hd
  rcases lexeme_cases c cs with hc | ⟨hno, -⟩
  · rw [h] at hc
    exact List.singleton_inj.mp ((isMark_of_punctuation hc).2.symm.trans hspell)
  · rw [h, hmark] at hno
    cases hno

theorem lexeme_keyword {word : Keyword} (h : (lexeme c cs).1 = .keyword word) :
    startsIdentifier c = true ∧ wordKind (c :: cs.takeWhile continuesIdentifier) = .keyword word ∧
      cs.drop (lexeme c cs).2 = cs.dropWhile continuesIdentifier := by
  rcases lexeme_cases c cs with hc | ⟨-, hword⟩
  · have := (isMark_of_punctuation hc).1
    rw [h] at this
    cases this
  · obtain ⟨hstart, hkind, hlength⟩ := hword word h
    refine ⟨hstart, hkind, ?_⟩
    have hsplit := List.takeWhile_append_dropWhile (p := continuesIdentifier) (l := cs)
    calc cs.drop (lexeme c cs).2
        = (cs.takeWhile continuesIdentifier ++ cs.dropWhile continuesIdentifier).drop
            (cs.takeWhile continuesIdentifier).length := by rw [hsplit, hlength]
      _ = cs.dropWhile continuesIdentifier := List.drop_left

theorem wordKind_f (cs : List Char) (word : Keyword) : wordKind ('f' :: cs) ≠ .keyword word := by
  have hnone : Keyword.ofName? (String.ofList (Text.asciiUpper ('f' :: cs))) = none := by
    rw [ofName?_eq_none_iff]
    intro k hk
    rw [← String.toList_inj, String.toList_ofList] at hk
    cases k <;> cases hk
  rw [wordKind, hnone]
  intro h
  cases h

/-! ## Tokens and characters -/

/-- The marks among the tokens of a text stand in the text. -/
theorem mem_of_mark (hd : punctuation? d = some k) (p : Position) (cs : List Char) :
    k ∈ (tokensFrom p cs).map Token.kind → d ∈ cs := by
  fun_induction tokensFrom p cs with
  | case1 p =>
    intro hk
    have hmark := (isMark_of_punctuation hd).1
    rw [List.map_singleton, List.mem_singleton] at hk
    rw [hk] at hmark
    cases hmark
  | case2 p c cs hblank ih => exact fun hk => List.mem_cons_of_mem _ (ih hk)
  | case3 p c hblank ih =>
    intro hk
    exact List.mem_cons_of_mem _ ((List.dropWhile_sublist _).subset (ih hk))
  | case4 p c cs hblank hhash kind n hlex ih =>
    intro hk
    rcases List.mem_cons.mp hk with rfl | hk
    · have hc : c = d := eq_of_lexeme_mark hd (congrArg Prod.fst hlex)
      exact hc ▸ List.mem_cons_self
    · exact List.mem_cons_of_mem _ (List.mem_of_mem_drop (ih hk))

/-- The first token of a text belongs to the first character that is not blank, unless a comment starts there. -/
theorem first_token (h : tokensFrom p cs = t :: ts) (ht : t.kind ≠ .eof) :
    ∃ c rest, Text.trimStart cs = c :: rest ∧
      (c = '#' ∨ (lexeme c rest).1 = t.kind ∧ ∃ q, tokensFrom q (rest.drop (lexeme c rest).2) = ts) := by
  induction cs generalizing p with
  | nil =>
    rw [tokensFrom.eq_def] at h
    cases h
    exact absurd rfl ht
  | cons c cs ih =>
    rw [tokensFrom.eq_def] at h
    dsimp only at h
    split_ifs at h with hblank hhash
    · rw [Text.trimStart, List.dropWhile_cons_of_pos hblank]
      exact ih h
    · exact ⟨c, cs, List.dropWhile_cons_of_neg hblank, .inl hhash⟩
    · cases h
      exact ⟨c, cs, List.dropWhile_cons_of_neg hblank, .inr ⟨rfl, _, rfl⟩⟩

/-! ## Openers -/

/-- What can open a query, or a part of it: a comment, a matcher or a list of operands. -/
def queryOpeners : List Char := ['#', '\x7b', '(']

/-- What can open a query, or the name in a selector. -/
def openers : List Char := '[' :: queryOpeners

def opener? (cs : List Char) : Option Char := cs.find? (· ∈ openers)

theorem opener?_cons_of_mem (h : c ∈ openers) (cs : List Char) : opener? (c :: cs) = some c :=
  List.find?_cons_of_pos (decide_eq_true h)

theorem opener?_append {lead : List Char} (h : ∀ c ∈ lead, c ∉ openers) (cs : List Char) :
    opener? (lead ++ cs) = opener? cs := by
  have hnone : lead.find? (· ∈ openers) = none := List.find?_eq_none.mpr fun c hc => by simpa using h c hc
  rw [opener?, List.find?_append, hnone, Option.none_or]
  rfl

theorem not_mem_openers {q : Char → Bool} (hq : openers.any q = false) (h : q c = true) : c ∉ openers :=
  fun hc => List.any_eq_false.mp hq c hc h

theorem opener?_dropWhile {q : Char → Bool} (hq : openers.any q = false) (cs : List Char) :
    opener? (cs.dropWhile q) = opener? cs := by
  have hlead : ∀ c ∈ cs.takeWhile q, c ∉ openers := fun c hc =>
    not_mem_openers hq (List.all_eq_true.mp List.all_takeWhile c hc)
  rw [← opener?_append hlead, List.takeWhile_append_dropWhile]

theorem opener?_trimStart (cs : List Char) : opener? (Text.trimStart cs) = opener? cs :=
  opener?_dropWhile (by decide) cs

/-- Blanks at the end of a text do not count. -/
theorem opener?_trim (cs : List Char) : opener? (Text.trim cs) = opener? cs := by
  obtain ⟨tail, htrim, htail, -⟩ := Text.dropEndWhile_spec Text.isBlank (Text.trimStart cs)
  have hnone : tail.find? (· ∈ openers) = none :=
    List.find?_eq_none.mpr fun c hc => by simpa using not_mem_openers (by decide) (htail c hc)
  rw [← opener?_trimStart cs, htrim, opener?, opener?, List.find?_append, hnone, Option.or_none]
  rfl

/-! ## Words of the grammar -/

theorem listed_mem {α : Type} {x : Phrase α} {w : List TokenKind} {as : List α} (hx : ∀ v a, a ∈ as → x v a → k ∈ v)
    (h : Listed x w as) (hne : as ≠ []) : k ∈ w := by
  obtain ⟨-, rfl⟩ | ⟨v, a, hv, ⟨rfl, rfl⟩ | ⟨u, bs, rfl, rfl, -⟩⟩ := h.uncons
  · exact absurd rfl hne
  · exact hx _ a List.mem_cons_self hv
  · exact List.mem_append_left _ (hx _ a List.mem_cons_self hv)

theorem colon_mem_field {w : List TokenKind} {value : FieldValue} (h : Field w value) : .colon ∈ w := by
  cases h <;> simp

theorem colon_mem_matcher {w : List TokenKind} {m : NodeMatcher × Option String} (h : Matcher w m) : .colon ∈ w := by
  cases h
  simp

/-- By induction on the nesting: the colon of an operator is in its first operand. -/
theorem colon_mem {w : List TokenKind} {e : Expr} (h : Expression w e) : .colon ∈ w := by
  induction hn : e.nesting using Nat.strongRecOn generalizing w e with
  | ind n ih =>
    cases h with
    | @taint v fields source sink h hsource hsink =>
      have hne : fields ≠ [] := by
        rintro rfl
        cases hsource
      have := listed_mem (fun v value _ hv => colon_mem_field hv) h hne
      simp [this]
    | @logical op v operands h hne =>
      rw [Expr.nesting] at hn
      have hless := (nestingAll_le_iff operands _).mp (Nat.le_refl _)
      have := listed_mem (fun v e he hv => ih e.nesting (by have := hless e he; omega) hv rfl) h hne
      simp [this]
    | pattern h => exact colon_mem_matcher h

theorem expression_first {w : List TokenKind} {e : Expr} (h : Expression w e) :
    (∃ v, w = .leftBrace :: v) ∨
      ∃ word o v, w = .keyword word :: o :: v ∧ (o = .leftBrace ∨ o = .leftParen) := by
  cases h with
  | taint => exact .inr ⟨_, _, _, rfl, .inl rfl⟩
  | logical op => exact .inr ⟨_, _, _, rfl, .inr rfl⟩
  | pattern h => exact .inl h.first

/-! ## Where a query starts -/

theorem start_of_opener {rest : List Char} (hc : c ∈ queryOpeners) (h : Text.trimStart cs = c :: rest) :
    opener? cs = some c ∧ (Text.trimStart cs).head? ≠ some 'f' := by
  constructor
  · rw [← opener?_trimStart, h, opener?_cons_of_mem (List.mem_cons_of_mem _ hc)]
  · rw [h, List.head?_cons]
    rintro ⟨⟩
    exact absurd hc (by decide)

theorem first_opener (h : tokensFrom p cs = t :: ts) (ht : t.kind = .leftBrace ∨ t.kind = .leftParen) :
    ∃ c ∈ queryOpeners, ∃ rest, Text.trimStart cs = c :: rest := by
  have hne : t.kind ≠ .eof := by rcases ht with ht | ht <;> simp [ht]
  obtain ⟨c, rest, htrim, rfl | ⟨hkind, -⟩⟩ := first_token h hne
  · exact ⟨'#', by decide, rest, htrim⟩
  · refine ⟨c, ?_, rest, htrim⟩
    rcases ht with ht | ht
    · rw [eq_of_lexeme_mark (d := '\x7b') rfl (hkind.trans ht)]
      decide
    · rw [eq_of_lexeme_mark (d := '(') rfl (hkind.trans ht)]
      decide

/-- The first opener of a query is none of a selector, and a query does not start like a flow. -/
theorem query_start {w ws : List TokenKind} {e : Expr} (hx : Expression w e)
    (h : (tokensFrom p cs).map Token.kind = w ++ ws) :
    (∃ c ∈ queryOpeners, opener? cs = some c) ∧ (Text.trimStart cs).head? ≠ some 'f' := by
  obtain ⟨v, rfl⟩ | ⟨word, o, v, rfl, ho⟩ := expression_first hx
  · obtain ⟨t, ts, htokens, ht, -⟩ := List.map_eq_cons_iff.mp h
    obtain ⟨c, hc, rest, htrim⟩ := first_opener htokens (.inl ht)
    exact (start_of_opener hc htrim).imp_left fun h => ⟨c, hc, h⟩
  · obtain ⟨t, ts, htokens, ht, hts⟩ := List.map_eq_cons_iff.mp h
    obtain ⟨u, us, rfl, hu, -⟩ := List.map_eq_cons_iff.mp hts
    obtain ⟨c, rest, htrim, rfl | ⟨hkind, q, hrest⟩⟩ := first_token htokens (by simp [ht])
    · exact (start_of_opener (by decide) htrim).imp_left fun h => ⟨'#', by decide, h⟩
    · -- a keyword holds no opener, so that the first one comes after it
      obtain ⟨hstart, hword, hdrop⟩ := lexeme_keyword (hkind.trans ht)
      rw [hdrop] at hrest
      obtain ⟨c', hc', rest', htrim'⟩ := first_opener hrest (hu ▸ ho)
      refine ⟨⟨c', hc', ?_⟩, ?_⟩
      · calc opener? cs = opener? ([c] ++ rest) := by rw [← opener?_trimStart, htrim, List.singleton_append]
          _ = opener? rest := opener?_append (List.forall_mem_singleton.mpr (not_mem_openers (by decide) hstart)) rest
          _ = opener? (rest.dropWhile continuesIdentifier) := (opener?_dropWhile (by decide +kernel) rest).symm
          _ = some c' := (start_of_opener hc' htrim').1
      · rw [htrim, List.head?_cons]
        rintro ⟨⟩
        exact wordKind_f _ word hword

theorem looksLikeQuery_of_expression {source : String} {w ws : List TokenKind} {e : Expr} (hx : Expression w e)
    (h : (tokenize source).map Token.kind = w ++ ws) : looksLikeQuery source = true := by
  have hmem {c : Char} {k : TokenKind} (hc : punctuation? c = some k) (hk : k ∈ w) : c ∈ source.toList :=
    mem_of_mark hc .start _ (h ▸ List.mem_append_left ws hk)
  have hbracket : ∃ c ∈ source.toList, isBracket c = true := by
    obtain ⟨v, rfl⟩ | ⟨word, o, v, rfl, rfl | rfl⟩ := expression_first hx
    · exact ⟨'\x7b', hmem rfl (by simp), rfl⟩
    · exact ⟨'\x7b', hmem rfl (by simp), rfl⟩
    · exact ⟨'(', hmem rfl (by simp), rfl⟩
  have hcolon : ':' ∈ source.toList := hmem rfl (colon_mem hx)
  simp only [looksLikeQuery, Bool.or_eq_true, Bool.and_eq_true, List.any_eq_true]
  exact .inr ⟨hbracket, ':', hcolon, .inl rfl⟩

end Query

/-! ## Where an older pattern starts -/

namespace LegacyPattern

open Regex Outline
open Query (opener? openers queryOpeners)

variable {cs : List Char} {m : Match}

theorem flowShape_first (h : Matches flowShape cs m) : ∃ rest, cs = 'f' :: rest := by
  obtain ⟨p, q, rfl, -, ⟨p₁, h₁, p₂, h₂, -⟩, -⟩ := h
  obtain ⟨hleft, rfl⟩ := takes_startText h₁
  refine ⟨"low".toList ++ p₂.right, ?_⟩
  rw [Cursor.text, hleft, takes_literal h₂]
  rfl

/-- Up to its bracket, a selector is a name and blanks. -/
theorem selectorShape_opener (h : Matches selectorShape cs m) : opener? cs = none ∨ opener? cs = some '[' := by
  obtain ⟨p, q, rfl, -, ⟨p₁, h₁, p₂, hname, p₃, hblanks, p₄, hopt, hend⟩, -⟩ := h
  obtain ⟨hleft, rfl⟩ := takes_startText h₁
  have hnameSets : ∀ chars ∈ (group 1 name).sets, openers.any chars.mem = false := by decide +kernel
  have hblankSets : ∀ chars ∈ blanks.sets, openers.any chars.mem = false := by decide
  obtain ⟨lead, hright, -, hlead⟩ :=
    (hname.alphabet fun chars h _ => Query.not_mem_openers (hnameSets chars h)).trans
      (hblanks.alphabet fun chars h _ => Query.not_mem_openers (hblankSets chars h))
  rw [Cursor.text, hleft, List.reverse_nil, List.nil_append, hright, Query.opener?_append hlead]
  rcases takes_opt hopt with rfl | ⟨p₅, hbracket, -⟩
  · rw [takes_endText hend]
    exact .inl rfl
  · obtain ⟨rest, hrest, -⟩ := takes_word '[' rfl hbracket
    rw [hrest]
    exact .inr (Query.opener?_cons_of_mem (by decide) rest)

theorem parse_of_query_start {source : String} (hopener : ∃ c ∈ queryOpeners, opener? source.toList = some c)
    (hfirst : (Text.trimStart source.toList).head? ≠ some 'f') : parse source = .error .unrecognized := by
  have hflow : flowShape.find? (Text.trim source.toList) = none := by
    refine Option.eq_none_iff_forall_ne_some.mpr fun m hm => hfirst ?_
    obtain ⟨rest, hrest⟩ := flowShape_first (find?_matches hm)
    obtain ⟨tail, htail⟩ := Text.dropEndWhile_prefix Text.isBlank (Text.trimStart source.toList)
    rw [← htail, show Text.dropEndWhile Text.isBlank (Text.trimStart source.toList) = _ from hrest]
    rfl
  have hselector : selectorShape.find? (Text.trim source.toList) = none := by
    refine Option.eq_none_iff_forall_ne_some.mpr fun m hm => ?_
    obtain ⟨c, hc, hc'⟩ := hopener
    rcases selectorShape_opener (find?_matches hm) with h | h <;> rw [Query.opener?_trim, hc'] at h <;> cases h
    exact absurd hc (by decide)
  simp only [parse, hflow, hselector]

end LegacyPattern

namespace Query

open Grammar

theorem takeQuery_of_parseQuery {source : String} {q : Query} (h : parseQuery source = .ok q) :
    takeQuery (tokenize source) = .ok q.expression := by
  rw [parseQuery, parse] at h
  cases htake : takeQuery (tokenize source) with
  | error e =>
    rw [htake] at h
    cases h
  | ok e =>
    rw [htake] at h
    cases h
    rfl

/-- **A text that is a query is taken for one and is no older pattern**, so that an analysis runs it as a query: if
nothing is wrong with it, the findings are those of its expression, else it is skipped with what is wrong. -/
theorem parseQuery_routed {source : String} {q : Query} (h : parseQuery source = .ok q) :
    looksLikeQuery source = true ∧ LegacyPattern.parse source = .error .unrecognized ∧
      ∀ ctx : Analysis.Context, Analysis.runPattern ctx source =
        if q.violations true = [] then .ok (Analysis.evaluate ctx q.expression)
        else .error (PrepareError.invalid (q.violations true)).message := by
  obtain ⟨used, t, rest, htokens, -, hx, -⟩ := (takeQuery_ok_iff _ _).mp (takeQuery_of_parseQuery h)
  have hkinds : (tokenize source).map Token.kind = used.map Token.kind ++ (t :: rest).map Token.kind := by
    rw [htokens, List.map_append]
  have hlooks := looksLikeQuery_of_expression hx hkinds
  obtain ⟨hopener, hfirst⟩ := query_start hx hkinds
  refine ⟨hlooks, LegacyPattern.parse_of_query_start hopener hfirst, fun ctx => ?_⟩
  rw [Analysis.runPattern, if_pos hlooks, prepare, h]
  dsimp only
  cases hv : q.violations true with
  | nil =>
    -- hints change nothing but the metadata
    cases ctx.options.optimizerHints <;> rfl
  | cons v vs => rfl

/-- A query after a comment that reads like a flow, an ideographic space and a keyword that could be the kind of a
selector. -/
theorem parseQuery_routed_hidden :
    let source := "# flow(a -> b)\n\u3000Not (\x7bCall: eval\x7d)"
    ∃ q, parseQuery source = .ok q ∧ looksLikeQuery source = true ∧
      LegacyPattern.parse source = .error .unrecognized := by
  intro source
  have hread : (parseQuery source).toOption.isSome = true := by decide +kernel
  cases hq : parseQuery source with
  | error e =>
    rw [hq] at hread
    cases hread
  | ok q => exact ⟨q, rfl, (parseQuery_routed hq).1, (parseQuery_routed hq).2.1⟩

end Query

end SourceAudit
