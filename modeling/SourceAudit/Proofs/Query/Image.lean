import SourceAudit.Proofs.Query.Lexemes
import SourceAudit.Proofs.Query.Parser

/-!
# Which expressions can be written

* `Expr.Expressible` : the expressions that have a text;
* `Lexed w` : the word `w` holds tokens that a text can hold; `expression_expressible` : its value is expressible;
* `Expr.tokens`, `Expr.write` : how an expression is written, first as tokens and then as a text;
* `parseQuery_write` : what is written is read as the same expression;
* `parseQuery_image` : the queries of all texts are the expressible expressions that nest at most 64 deep.
-/

namespace SourceAudit.Query

open Grammar

/-! ## Expressions with a text -/

/-- A literal tells upper from lower case, and a regular expression can stand between slashes. -/
def PatternSpec.Expressible (p : PatternSpec) : Prop :=
  match p.kind with
  | .literal => p.caseSensitive = true
  | .regex => IsRegexText p.value.toList

/-- The kinds are identifiers, and every pattern is expressible. -/
def NodeMatcher.Expressible (m : NodeMatcher) : Prop :=
  (∀ k ∈ m.kinds.members, IsIdentifier k) ∧ ∀ p ∈ m.patterns, p.Expressible

/-- The matchers are expressible, and every operator has an operand. -/
inductive Expr.Expressible : Expr → Prop where
  | taint {source sink : NodeMatcher} {sanitizers : List NodeMatcher} : source.Expressible → sink.Expressible →
      (∀ m ∈ sanitizers, m.Expressible) → Expressible (.taint source sink sanitizers)
  | logical (op : LogicalOp) {operands : List Expr} : operands ≠ [] → (∀ e ∈ operands, e.Expressible) →
      Expressible (.logical op operands)
  | pattern {m : NodeMatcher} (reason : Option String) : m.Expressible → Expressible (.pattern m reason)

/-! ## Words of texts -/

/-- Every token of the word can stand in a text, or is faulty, or is an end marker. -/
def Lexed (w : List TokenKind) : Prop := ∀ k ∈ w, k = .eof ∨ (∃ text, k = .unknown text) ∨ k.Spellable

section Lexed

variable {α : Type} {w v : List TokenKind}

theorem lexed_cons {k : TokenKind} (h : Lexed (k :: w)) : Lexed w := (List.forall_mem_cons.mp h).2

theorem lexed_append (h : Lexed (w ++ v)) : Lexed w ∧ Lexed v := List.forall_mem_append.mp h

theorem Lexed.identifier {name : String} (h : Lexed w) (hk : .identifier name ∈ w) : IsIdentifier name := by
  simpa [TokenKind.Spellable] using h _ hk

theorem Lexed.regex {pattern flags : String} (h : Lexed w) (hk : .regex pattern flags ∈ w) :
    IsRegexText pattern.toList := by
  have hs : IsRegexText pattern.toList ∧ ∀ c ∈ flags.toList, c.isAlpha = true := by
    simpa [TokenKind.Spellable] using h _ hk
  exact hs.1

/-- The values of a phrase have a property, if its words are words of texts. -/
def Ensures (x : Phrase α) (P : α → Prop) : Prop := ∀ w a, Lexed w → x w a → P a

theorem Ensures.items {x : Phrase α} {P : α → Prop} (hx : Ensures x P) : Ensures (Items x) fun as => ∀ a ∈ as, P a := by
  intro w as hw h
  induction h with
  | one ha => exact List.forall_mem_singleton.mpr (hx _ _ hw ha)
  | more ha _ ih =>
    obtain ⟨hfirst, hrest⟩ := lexed_append hw
    exact List.forall_mem_cons.mpr ⟨hx _ _ hfirst ha, ih (lexed_cons hrest)⟩

theorem Ensures.listed {x : Phrase α} {P : α → Prop} (hx : Ensures x P) :
    Ensures (Listed x) fun as => ∀ a ∈ as, P a := by
  intro w as hw h
  cases h with
  | nothing => exact nofun
  | plain h => exact hx.items _ _ hw h
  | trailing h => exact hx.items _ _ (lexed_append hw).1 h

theorem Ensures.shortOrList {short : Phrase (List α)} {x : Phrase α} {P : α → Prop}
    (hshort : Ensures short fun as => ∀ a ∈ as, P a) (hx : Ensures x P) :
    Ensures (ShortOrList short x) fun as => ∀ a ∈ as, P a := by
  intro w as hw h
  cases h with
  | short h => exact hshort _ _ hw h
  | list h => exact hx.listed _ _ (lexed_append (lexed_cons hw)).1 h

theorem Ensures.single {x : Phrase α} {P : α → Prop} (hx : Ensures x P) :
    Ensures (Single x) fun as => ∀ a ∈ as, P a := by
  rintro w as hw ⟨a, ha, rfl⟩
  exact List.forall_mem_singleton.mpr (hx _ _ hw ha)

end Lexed

theorem pattern_expressible : Ensures Pattern PatternSpec.Expressible := by
  intro w p hw h
  cases h with
  | string value => rfl
  | identifier name => rfl
  | regex value flags => exact hw.regex List.mem_cons_self

theorem kindNames_identifiers : Ensures KindNames fun names => ∀ name ∈ names, IsIdentifier name := by
  refine Ensures.shortOrList (fun w names hw h => ?_) (fun w name hw h => ?_)
  · induction h with
    | one name => exact List.forall_mem_singleton.mpr (hw.identifier List.mem_cons_self)
    | more name _ ih =>
      exact List.forall_mem_cons.mpr ⟨hw.identifier List.mem_cons_self, ih (lexed_cons (lexed_cons hw))⟩
  · cases h
    exact hw.identifier List.mem_cons_self

theorem matcher_expressible : Ensures Matcher fun m => m.1.Expressible := by
  intro w m hw h
  cases h with
  | mk hk hset hp hr hcomma =>
    obtain ⟨hkinds, hrest⟩ := lexed_append (lexed_cons hw)
    obtain ⟨hpatterns, -⟩ := lexed_append (lexed_cons hrest)
    refine ⟨fun k hk' => ?_, ?_⟩
    · exact kindNames_identifiers _ _ hkinds hk k ((hset k).mp hk')
    · exact pattern_expressible.single.shortOrList pattern_expressible _ _ hpatterns hp

theorem bareMatcher_expressible : Ensures BareMatcher NodeMatcher.Expressible := by
  rintro w m hw ⟨reason, h⟩
  exact matcher_expressible _ _ hw h

def Grammar.FieldValue.Expressible : FieldValue → Prop
  | .source m => m.Expressible
  | .sink m => m.Expressible
  | .sanitizers ms => ∀ m ∈ ms, m.Expressible

theorem field_expressible : Ensures Field FieldValue.Expressible := by
  intro w value hw h
  cases h with
  | source h => exact bareMatcher_expressible _ _ (lexed_cons (lexed_cons hw)) h
  | sink h => exact bareMatcher_expressible _ _ (lexed_cons (lexed_cons hw)) h
  | sanitizer h =>
    exact bareMatcher_expressible.single.shortOrList bareMatcher_expressible _ _ (lexed_cons (lexed_cons hw)) h

theorem taint_expressible {fields : List FieldValue} {source sink : NodeMatcher} (h : ∀ f ∈ fields, f.Expressible)
    (hsource : fields.filterMap FieldValue.source? = [source]) (hsink : fields.filterMap FieldValue.sink? = [sink]) :
    (Expr.taint source sink (fields.flatMap FieldValue.sanitizerList)).Expressible := by
  refine .taint ?_ ?_ fun m hm => ?_
  · have hmem : source ∈ fields.filterMap FieldValue.source? := hsource ▸ List.mem_singleton_self source
    obtain ⟨f, hf, hfm⟩ := List.mem_filterMap.mp hmem
    cases f <;> cases hfm
    exact h _ hf
  · have hmem : sink ∈ fields.filterMap FieldValue.sink? := hsink ▸ List.mem_singleton_self sink
    obtain ⟨f, hf, hfm⟩ := List.mem_filterMap.mp hmem
    cases f <;> cases hfm
    exact h _ hf
  · obtain ⟨f, hf, hfm⟩ := List.mem_flatMap.mp hm
    cases f with
    | source m => cases hfm
    | sink m => cases hfm
    | sanitizers ms => exact h _ hf m hfm

/-- By induction on the nesting, since the operands of an expression nest less deep than it does. -/
theorem expression_expressible : Ensures Expression Expr.Expressible := by
  intro w e hw h
  induction hn : e.nesting using Nat.strongRecOn generalizing w e with
  | ind n ih =>
    cases h with
    | taint h hsource hsink =>
      have hfields := (lexed_append (lexed_cons (lexed_cons hw))).1
      exact taint_expressible (field_expressible.listed _ _ hfields h) hsource hsink
    | @logical op v operands h hne =>
      rw [Expr.nesting] at hn
      have hless : ∀ e ∈ operands, e.nesting < n := by
        intro e he
        have := (nestingAll_le_iff operands _).mp (Nat.le_refl _) e he
        omega
      have hoperand : Ensures (fun w e => Expression w e ∧ e.nesting < n) Expr.Expressible :=
        fun w e hw h => ih _ h.2 w e hw h.1 rfl
      have hoperands := (lexed_append (lexed_cons (lexed_cons hw))).1
      exact .logical op hne (hoperand.listed _ _ hoperands (listed_and_iff.mpr ⟨h, hless⟩))
    | pattern h => exact .pattern _ (matcher_expressible _ _ hw h)

/-! ## Writing expressions -/

/-- A list with a comma after every item. -/
def listTokens {α : Type} (item : α → List TokenKind) (as : List α) : List TokenKind :=
  as.flatMap fun a => item a ++ [.comma]

def bracketed {α : Type} (item : α → List TokenKind) (as : List α) : List TokenKind :=
  .leftBracket :: (listTokens item as ++ [.rightBracket])

/-- A pattern, with the literal ones as strings. -/
def PatternSpec.token (p : PatternSpec) : TokenKind :=
  match p.kind with
  | .literal => .string p.value
  | .regex => .regex p.value (if p.caseSensitive then "" else "i")

def reasonTokens : Option String → List TokenKind
  | none => []
  | some text => [.comma, .identifier "reason", .colon, .string text]

def NodeMatcher.tokens (m : NodeMatcher) (reason : Option String) : List TokenKind :=
  .leftBrace :: (bracketed (fun k => [.identifier k]) m.kinds.members ++
    .colon :: (bracketed (fun p => [p.token]) m.patterns ++ (reasonTokens reason ++ [.rightBrace])))

def Grammar.FieldValue.tokens : FieldValue → List TokenKind
  | .source m => .keyword .source :: .colon :: m.tokens none
  | .sink m => .keyword .sink :: .colon :: m.tokens none
  | .sanitizers ms => .keyword .sanitizer :: .colon :: bracketed (fun m => m.tokens none) ms

mutual

def Expr.tokens : Expr → List TokenKind
  | .taint source sink sanitizers =>
    .keyword .taint :: .leftBrace ::
      (listTokens FieldValue.tokens [.source source, .sink sink, .sanitizers sanitizers] ++ [.rightBrace])
  | .logical op operands => .keyword op.keyword :: .leftParen :: (operandTokens operands ++ [.rightParen])
  | .pattern m reason => m.tokens reason

/-- The tokens of operands, with a comma after each. -/
def operandTokens : List Expr → List TokenKind
  | [] => []
  | e :: es => e.tokens ++ .comma :: operandTokens es

end

theorem operandTokens_eq (es : List Expr) : operandTokens es = listTokens Expr.tokens es := by
  induction es with
  | nil => rfl
  | cons e es ih => rw [operandTokens, ih, listTokens, listTokens, List.flatMap_cons, List.append_assoc]; rfl

def Expr.write (e : Expr) : String := String.ofList (spellAll e.tokens)

section Writing

variable {α : Type} {item : α → List TokenKind} {as : List α}

theorem listed_listTokens {x : Phrase α} (h : ∀ a ∈ as, x (item a) a) : Listed x (listTokens item as) as := by
  induction as with
  | nil => exact .nothing
  | cons a as ih =>
    obtain ⟨ha, has⟩ := List.forall_mem_cons.mp h
    have := Listed.cons ha (ih has)
    rwa [listTokens, List.flatMap_cons, List.append_assoc]

theorem listTokens_spellable (h : ∀ a ∈ as, ∀ k ∈ item a, k.Spellable) : ∀ k ∈ listTokens item as, k.Spellable := by
  intro k hk
  obtain ⟨a, ha, hk⟩ := List.mem_flatMap.mp hk
  rcases List.mem_append.mp hk with hk | hk
  · exact h a ha k hk
  · cases List.mem_singleton.mp hk
    trivial

theorem bracketed_spellable (h : ∀ a ∈ as, ∀ k ∈ item a, k.Spellable) : ∀ k ∈ bracketed item as, k.Spellable := by
  refine List.forall_mem_cons.mpr ⟨trivial, List.forall_mem_append.mpr ⟨listTokens_spellable h, ?_⟩⟩
  exact List.forall_mem_singleton.mpr trivial

end Writing

theorem pattern_token {p : PatternSpec} (h : p.Expressible) : Pattern [p.token] p ∧ p.token.Spellable := by
  obtain ⟨kind, value, caseSensitive⟩ := p
  cases kind with
  | literal =>
    obtain rfl : caseSensitive = true := h
    exact ⟨.string value, trivial⟩
  | regex =>
    cases caseSensitive with
    | true => exact ⟨.regex value "" (by simp), h, by simp⟩
    | false => exact ⟨.regex value "i" (by simp), h, by simp⟩

theorem reasons_reasonTokens (reason : Option String) :
    ∃ texts, Reasons (reasonTokens reason) texts ∧ texts.getLast? = reason := by
  cases reason with
  | none => exact ⟨[], .none, rfl⟩
  | some text => exact ⟨[text], .more text .none, rfl⟩

theorem isIdentifier_reason : IsIdentifier "reason" := by
  refine ⟨⟨'r', "eason".toList, rfl, by decide, List.all_eq_true.mp (by decide +kernel)⟩, fun k => ?_⟩
  cases k <;> decide

theorem reasonTokens_spellable (reason : Option String) : ∀ k ∈ reasonTokens reason, k.Spellable := by
  cases reason with
  | none => exact nofun
  | some text =>
    rw [reasonTokens]
    simpa [TokenKind.Spellable] using isIdentifier_reason

theorem matcher_tokens {m : NodeMatcher} (h : m.Expressible) (reason : Option String) :
    Matcher (m.tokens reason) (m, reason) := by
  obtain ⟨-, hpatterns⟩ := h
  obtain ⟨texts, hreasons, rfl⟩ := reasons_reasonTokens reason
  have hkinds : KindNames (bracketed (fun k => [.identifier k]) m.kinds.members) m.kinds.members :=
    .list (listed_listTokens fun k _ => .mk k)
  have hspecs : Patterns (bracketed (fun p => [p.token]) m.patterns) m.patterns :=
    .list (listed_listTokens fun p hp => (pattern_token (hpatterns p hp)).1)
  exact .mk hkinds (fun k => Iff.rfl) hspecs hreasons (.inl rfl)

theorem matcher_tokens_spellable {m : NodeMatcher} (h : m.Expressible) (reason : Option String) :
    ∀ k ∈ m.tokens reason, k.Spellable := by
  have hkinds : ∀ t ∈ bracketed (fun k => [.identifier k]) m.kinds.members, t.Spellable :=
    bracketed_spellable fun k hk => List.forall_mem_singleton.mpr (h.1 k hk)
  have hpatterns : ∀ t ∈ bracketed (fun p => [p.token]) m.patterns, t.Spellable :=
    bracketed_spellable fun p hp => List.forall_mem_singleton.mpr (pattern_token (h.2 p hp)).2
  simp only [NodeMatcher.tokens, List.forall_mem_cons, List.forall_mem_append]
  exact ⟨trivial, hkinds, trivial, hpatterns, reasonTokens_spellable reason, trivial, nofun⟩

theorem field_tokens {value : FieldValue} (h : value.Expressible) : Field value.tokens value := by
  cases value with
  | source m => exact .source ⟨none, matcher_tokens h none⟩
  | sink m => exact .sink ⟨none, matcher_tokens h none⟩
  | sanitizers ms => exact .sanitizer (.list (listed_listTokens fun m hm => ⟨none, matcher_tokens (h m hm) none⟩))

theorem field_tokens_spellable {value : FieldValue} (h : value.Expressible) : ∀ k ∈ value.tokens, k.Spellable := by
  cases value with
  | source m =>
    exact List.forall_mem_cons.mpr ⟨trivial, List.forall_mem_cons.mpr ⟨trivial, matcher_tokens_spellable h none⟩⟩
  | sink m =>
    exact List.forall_mem_cons.mpr ⟨trivial, List.forall_mem_cons.mpr ⟨trivial, matcher_tokens_spellable h none⟩⟩
  | sanitizers ms =>
    refine List.forall_mem_cons.mpr ⟨trivial, List.forall_mem_cons.mpr ⟨trivial, ?_⟩⟩
    exact bracketed_spellable fun m hm => matcher_tokens_spellable (h m hm) none

theorem fields_expressible {source sink : NodeMatcher} {sanitizers : List NodeMatcher} (hsource : source.Expressible)
    (hsink : sink.Expressible) (hsanitizers : ∀ m ∈ sanitizers, m.Expressible) :
    ∀ f ∈ [FieldValue.source source, .sink sink, .sanitizers sanitizers], f.Expressible := by
  simpa [FieldValue.Expressible] using ⟨hsource, hsink, hsanitizers⟩

theorem expression_tokens {e : Expr} (h : e.Expressible) : Expression e.tokens e := by
  induction h with
  | @taint source sink sanitizers hsource hsink hsanitizers =>
    have hfields := fields_expressible hsource hsink hsanitizers
    have := Expression.taint (listed_listTokens fun f hf => field_tokens (hfields f hf)) rfl rfl
    simpa [Expr.tokens, FieldValue.sanitizerList] using this
  | logical op hne _ ih =>
    rw [Expr.tokens, operandTokens_eq]
    exact .logical op (listed_listTokens ih) hne
  | pattern reason hm =>
    rw [Expr.tokens]
    exact .pattern (matcher_tokens hm reason)

theorem expression_tokens_spellable {e : Expr} (h : e.Expressible) : ∀ k ∈ e.tokens, k.Spellable := by
  induction h with
  | taint hsource hsink hsanitizers =>
    have hfields := fields_expressible hsource hsink hsanitizers
    simp only [Expr.tokens, List.forall_mem_cons, List.forall_mem_append]
    exact ⟨trivial, trivial, listTokens_spellable fun f hf => field_tokens_spellable (hfields f hf), trivial, nofun⟩
  | logical op _ _ ih =>
    simp only [Expr.tokens, operandTokens_eq, List.forall_mem_cons, List.forall_mem_append]
    exact ⟨trivial, trivial, listTokens_spellable ih, trivial, nofun⟩
  | pattern reason hm =>
    rw [Expr.tokens]
    exact matcher_tokens_spellable hm reason

/-! ## Texts of queries -/

theorem parseQuery_ok_iff (source : String) (e : Expr) :
    parseQuery source = .ok { expression := e } ↔ takeQuery (tokenize source) = .ok e := by
  rw [parseQuery, parse]
  cases takeQuery (tokenize source) with
  | error err => simp
  | ok e' => simp

theorem parseQuery_write {e : Expr} (h : e.Expressible) (hnest : e.nesting ≤ maxNesting) :
    parseQuery e.write = .ok { expression := e } := by
  have hkinds := tokenize_spellAll (expression_tokens_spellable h)
  obtain ⟨used, last, htokens, hused, hlast⟩ := List.map_eq_append_iff.mp hkinds
  obtain ⟨t, rest, rfl, ht, -⟩ := List.map_eq_cons_iff.mp hlast
  refine (parseQuery_ok_iff _ e).mpr ((takeQuery_ok_iff _ e).mpr ⟨used, t, rest, htokens, ht, ?_, hnest⟩)
  rw [hused]
  exact expression_tokens h

theorem expressible_of_parseQuery {source : String} {e : Expr} (h : parseQuery source = .ok { expression := e }) :
    e.Expressible ∧ e.nesting ≤ maxNesting := by
  obtain ⟨used, t, rest, htokens, -, hx, hnest⟩ := (takeQuery_ok_iff _ e).mp ((parseQuery_ok_iff source e).mp h)
  refine ⟨expression_expressible _ _ (fun k hk => ?_) hx, hnest⟩
  obtain ⟨u, hu, rfl⟩ := List.mem_map.mp hk
  exact tokenize_kinds source u (htokens ▸ List.mem_append_left _ hu)

/-- **The queries of all texts are the expressible expressions in which at most 64 operators lie on a path**, without
metadata. -/
theorem parseQuery_image (e : Expr) :
    (∃ source, parseQuery source = .ok { expression := e }) ↔ e.Expressible ∧ e.nesting ≤ 64 := by
  constructor
  · rintro ⟨source, h⟩
    exact expressible_of_parseQuery h
  · rintro ⟨h, hnest⟩
    exact ⟨e.write, parseQuery_write h hnest⟩

end SourceAudit.Query
