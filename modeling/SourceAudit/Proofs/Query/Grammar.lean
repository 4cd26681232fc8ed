import SourceAudit.Query.Parser

/-!
# The grammar of queries

The words of the query language, as relations between token kinds and values.

* `Phrase α` : words with a value in `α`;
* `Listed x` : nothing, or `x (',' x)* ','?`; `Items x` is the part without the last comma;
* `ShortOrList short x` : a short form, or a list of `x` in square brackets;
* `Pattern`, `Patterns`, `KindNames`, `Reasons`, `Matcher` : the parts of a node matcher and the matcher itself;
* `Field`, `Expression` : the fields of a TAINT, and whole expressions;
* `Expr.nesting` : how deep the logical operators of an expression nest.

The relations say nothing about how a word is read: no cursor, no depth counter and no lookahead.
-/

namespace SourceAudit.Query

mutual

/-- The greatest number of logical operators on a path from the root. -/
def Expr.nesting : Expr → Nat
  | .taint .. => 0
  | .pattern .. => 0
  | .logical _ operands => nestingAll operands + 1

def nestingAll : List Expr → Nat
  | [] => 0
  | e :: es => max e.nesting (nestingAll es)

end

theorem nestingAll_le_iff (es : List Expr) (n : Nat) : nestingAll es ≤ n ↔ ∀ e ∈ es, e.nesting ≤ n := by
  induction es with
  | nil => simp [nestingAll]
  | cons e es ih => rw [nestingAll, Nat.max_le, ih, List.forall_mem_cons]

def LogicalOp.keyword : LogicalOp → Keyword
  | .and => .and
  | .or => .or
  | .not => .not

namespace Grammar

abbrev Phrase (α : Type) := List TokenKind → α → Prop

/-! ## Lists -/

section Lists
variable {α : Type}

/-- `x (',' x)*` -/
inductive Items (x : List TokenKind → α → Prop) : List TokenKind → List α → Prop where
  | one {w : List TokenKind} {a : α} : x w a → Items x w [a]
  | more {w v : List TokenKind} {a : α} {as : List α} : x w a → Items x v as → Items x (w ++ .comma :: v) (a :: as)

/-- Nothing, or `x (',' x)* ','?` -/
inductive Listed (x : List TokenKind → α → Prop) : List TokenKind → List α → Prop where
  | nothing : Listed x [] []
  | plain {w : List TokenKind} {as : List α} : Items x w as → Listed x w as
  | trailing {w : List TokenKind} {as : List α} : Items x w as → Listed x (w ++ [.comma]) as

def Single (x : Phrase α) : Phrase (List α) := fun w as => ∃ a, x w a ∧ as = [a]

/-- A short form, or a list of `x` in square brackets. -/
inductive ShortOrList (short : Phrase (List α)) (x : Phrase α) : Phrase (List α) where
  | short {w : List TokenKind} {as : List α} : short w as → ShortOrList short x w as
  | list {w : List TokenKind} {as : List α} :
      Listed x w as → ShortOrList short x (.leftBracket :: (w ++ [.rightBracket])) as

theorem Listed.cons {x : Phrase α} {w v : List TokenKind} {a : α} {as : List α} (hw : x w a) (hv : Listed x v as) :
    Listed x (w ++ .comma :: v) (a :: as) := by
  cases hv with
  | nothing => exact .trailing (.one hw)
  | plain h => exact .plain (.more hw h)
  | @trailing v _ h =>
    have := Listed.trailing (Items.more hw h)
    rwa [List.append_assoc, List.cons_append] at this

/-- A list is empty, or one item, or one item, a comma and a list. -/
theorem Listed.uncons {x : Phrase α} {w : List TokenKind} {as : List α} (h : Listed x w as) :
    (w = [] ∧ as = []) ∨ ∃ v a, x v a ∧
      ((w = v ∧ as = [a]) ∨ ∃ u bs, w = v ++ .comma :: u ∧ as = a :: bs ∧ Listed x u bs) := by
  cases h with
  | nothing => exact Or.inl ⟨rfl, rfl⟩
  | plain h =>
    cases h with
    | one hw => exact Or.inr ⟨_, _, hw, Or.inl ⟨rfl, rfl⟩⟩
    | more hw hv => exact Or.inr ⟨_, _, hw, Or.inr ⟨_, _, rfl, rfl, .plain hv⟩⟩
  | trailing h =>
    cases h with
    | one hw => exact Or.inr ⟨_, _, hw, Or.inr ⟨[], [], rfl, rfl, .nothing⟩⟩
    | @more w v _ _ hw hv =>
      refine Or.inr ⟨_, _, hw, Or.inr ⟨v ++ [.comma], _, ?_, rfl, .trailing hv⟩⟩
      rw [List.append_assoc, List.cons_append]

theorem Items.of_and {x : Phrase α} {P : α → Prop} {w : List TokenKind} {as : List α}
    (h : Items (fun w a => x w a ∧ P a) w as) : Items x w as ∧ ∀ a ∈ as, P a := by
  induction h with
  | one hw => exact ⟨.one hw.1, by simpa using hw.2⟩
  | more hw _ ih => exact ⟨.more hw.1 ih.1, List.forall_mem_cons.mpr ⟨hw.2, ih.2⟩⟩

theorem Items.and {x : Phrase α} {P : α → Prop} {w : List TokenKind} {as : List α} (h : Items x w as)
    (hP : ∀ a ∈ as, P a) : Items (fun w a => x w a ∧ P a) w as := by
  induction h with
  | one hw => exact .one ⟨hw, hP _ (List.mem_singleton_self _)⟩
  | more hw _ ih =>
    obtain ⟨ha, has⟩ := List.forall_mem_cons.mp hP
    exact .more ⟨hw, ha⟩ (ih has)

/-- A condition on the items can be taken out of a list. -/
theorem listed_and_iff {x : Phrase α} {P : α → Prop} {w : List TokenKind} {as : List α} :
    Listed (fun w a => x w a ∧ P a) w as ↔ Listed x w as ∧ ∀ a ∈ as, P a := by
  constructor
  · intro h
    cases h with
    | nothing => exact ⟨.nothing, by simp⟩
    | plain h => exact ⟨.plain h.of_and.1, h.of_and.2⟩
    | trailing h => exact ⟨.trailing h.of_and.1, h.of_and.2⟩
  · rintro ⟨h, hP⟩
    cases h with
    | nothing => exact .nothing
    | plain h => exact .plain (h.and hP)
    | trailing h => exact .trailing (h.and hP)

end Lists

/-! ## Node matchers -/

inductive Identifier : Phrase String where
  | mk (name : String) : Identifier [.identifier name] name

/-- A string or an identifier, taken literally, or a regular expression whose flags are all `i`. -/
inductive Pattern : Phrase PatternSpec where
  | string (value : String) : Pattern [.string value] ⟨.literal, value, true⟩
  | identifier (name : String) : Pattern [.identifier name] ⟨.literal, name, true⟩
  | regex (value flags : String) : (∀ flag ∈ flags.toList, flag = 'i') →
      Pattern [.regex value flags] ⟨.regex, value, decide ('i' ∉ flags.toList)⟩

def Patterns : Phrase (List PatternSpec) := ShortOrList (Single Pattern) Pattern

/-- `identifier ('|' identifier)*` -/
inductive Piped : Phrase (List String) where
  | one (name : String) : Piped [.identifier name] [name]
  | more (name : String) {w : List TokenKind} {names : List String} :
      Piped w names → Piped (.identifier name :: .pipe :: w) (name :: names)

/-- The node kinds as they are written. -/
def KindNames : Phrase (List String) := ShortOrList Piped Identifier

/-- `(',' reason ':' string)*` -/
inductive Reasons : Phrase (List String) where
  | none : Reasons [] []
  | more (text : String) {w : List TokenKind} {texts : List String} :
      Reasons w texts → Reasons (.comma :: .identifier "reason" :: .colon :: .string text :: w) (text :: texts)

/-- A node matcher with its reason, which is the last one given. -/
inductive Matcher : Phrase (NodeMatcher × Option String) where
  | mk {k p r comma : List TokenKind} {names texts : List String} {kinds : StringSet} {specs : List PatternSpec} :
      KindNames k names → (∀ kind, kind ∈ kinds.members ↔ kind ∈ names) → Patterns p specs → Reasons r texts →
        comma = [] ∨ comma = [.comma] →
      Matcher (.leftBrace :: (k ++ .colon :: (p ++ (r ++ (comma ++ [.rightBrace]))))) (⟨kinds, specs⟩, texts.getLast?)

theorem Matcher.first {w : List TokenKind} {m : NodeMatcher × Option String} (h : Matcher w m) :
    ∃ v, w = .leftBrace :: v := by
  cases h
  exact ⟨_, rfl⟩

def BareMatcher : Phrase NodeMatcher := fun w m => ∃ reason, Matcher w (m, reason)

/-! ## Expressions -/

/-- What a field of a TAINT gives. -/
inductive FieldValue where
  | source (m : NodeMatcher)
  | sink (m : NodeMatcher)
  | sanitizers (ms : List NodeMatcher)

namespace FieldValue

def source? : FieldValue → Option NodeMatcher
  | source m => some m
  | _ => none

def sink? : FieldValue → Option NodeMatcher
  | sink m => some m
  | _ => none

def sanitizerList : FieldValue → List NodeMatcher
  | sanitizers ms => ms
  | _ => []

end FieldValue

inductive Field : Phrase FieldValue where
  | source {w : List TokenKind} {m : NodeMatcher} :
      BareMatcher w m → Field (.keyword .source :: .colon :: w) (.source m)
  | sink {w : List TokenKind} {m : NodeMatcher} :
      BareMatcher w m → Field (.keyword .sink :: .colon :: w) (.sink m)
  | sanitizer {w : List TokenKind} {ms : List NodeMatcher} :
      ShortOrList (Single BareMatcher) BareMatcher w ms → Field (.keyword .sanitizer :: .colon :: w) (.sanitizers ms)

/-- A whole expression, of any nesting. -/
inductive Expression : List TokenKind → Expr → Prop where
  /-- Exactly one field is a SOURCE and exactly one a SINK; the sanitizers of all fields count, in their order. -/
  | taint {w : List TokenKind} {fields : List FieldValue} {source sink : NodeMatcher} :
      Listed Field w fields → fields.filterMap FieldValue.source? = [source] →
      fields.filterMap FieldValue.sink? = [sink] →
      Expression (.keyword .taint :: .leftBrace :: (w ++ [.rightBrace]))
        (.taint source sink (fields.flatMap FieldValue.sanitizerList))
  | logical (op : LogicalOp) {w : List TokenKind} {operands : List Expr} :
      Listed Expression w operands → operands ≠ [] →
      Expression (.keyword op.keyword :: .leftParen :: (w ++ [.rightParen])) (.logical op operands)
  | pattern {w : List TokenKind} {m : NodeMatcher} {reason : Option String} :
      Matcher w (m, reason) → Expression w (.pattern m reason)

/-! ## End markers -/

/-- No word of the phrase holds an end marker. -/
def Endless {α : Type} (x : Phrase α) : Prop := ∀ w a, x w a → .eof ∉ w

section Endless
variable {α : Type}

theorem Endless.items {x : Phrase α} (hx : Endless x) : Endless (Items x) := by
  intro w as h
  induction h with
  | one hw => exact hx _ _ hw
  | more hw _ ih =>
    rw [List.mem_append, List.mem_cons]
    rintro (h | h | h)
    · exact hx _ _ hw h
    · cases h
    · exact ih h

theorem Endless.listed {x : Phrase α} (hx : Endless x) : Endless (Listed x) := by
  intro w as h
  cases h with
  | nothing => exact List.not_mem_nil
  | plain h => exact hx.items _ _ h
  | trailing h =>
    rw [List.mem_append, List.mem_singleton]
    rintro (h' | h')
    · exact hx.items _ _ h h'
    · cases h'

theorem Endless.shortOrList {short : Phrase (List α)} {x : Phrase α} (hshort : Endless short) (hx : Endless x) :
    Endless (ShortOrList short x) := by
  intro w as h
  cases h with
  | short h => exact hshort _ _ h
  | list h =>
    have := hx.listed _ _ h
    simpa using this

theorem Endless.single {x : Phrase α} (hx : Endless x) : Endless (Single x) := by
  rintro w as ⟨a, h, -⟩
  exact hx _ _ h

end Endless

theorem endless_pattern : Endless Pattern := by
  intro w p h
  cases h <;> simp

theorem endless_kindNames : Endless KindNames := by
  refine Endless.shortOrList (fun w names h => ?_) (fun w name h => ?_)
  · induction h with
    | one name => simp
    | more name _ ih => simpa using ih
  · cases h
    simp

theorem endless_reasons : Endless Reasons := by
  intro w texts h
  induction h with
  | none => exact List.not_mem_nil
  | more text _ ih => simpa using ih

theorem endless_matcher : Endless Matcher := by
  intro w m h
  cases h with
  | mk hk _ hp hr hcomma =>
    have h₁ := endless_kindNames _ _ hk
    have h₂ := endless_pattern.single.shortOrList endless_pattern _ _ hp
    have h₃ := endless_reasons _ _ hr
    rcases hcomma with rfl | rfl <;> simp [h₁, h₂, h₃]

theorem endless_bareMatcher : Endless BareMatcher := by
  rintro w m ⟨reason, h⟩
  exact endless_matcher _ _ h

theorem endless_field : Endless Field := by
  intro w value h
  cases h with
  | source h => simpa using endless_bareMatcher _ _ h
  | sink h => simpa using endless_bareMatcher _ _ h
  | sanitizer h => simpa using endless_bareMatcher.single.shortOrList endless_bareMatcher _ _ h

/-- By induction on the nesting, since the operands of an expression nest less deep than it does. -/
theorem endless_expression_of_nesting (n : Nat) : Endless fun w e => Expression w e ∧ e.nesting ≤ n := by
  induction n with
  | zero =>
    rintro w e ⟨h, hn⟩
    cases h with
    | taint h => simpa using endless_field.listed _ _ h
    | logical => rw [Expr.nesting] at hn; omega
    | pattern h => exact endless_matcher _ _ h
  | succ n ih =>
    rintro w e ⟨h, hn⟩
    cases h with
    | taint h => simpa using endless_field.listed _ _ h
    | logical op h =>
      rw [Expr.nesting] at hn
      have hes := (nestingAll_le_iff _ n).mp (Nat.le_of_succ_le_succ hn)
      simpa using ih.listed _ _ (listed_and_iff.mpr ⟨h, hes⟩)
    | pattern h => exact endless_matcher _ _ h

theorem endless_expression : Endless Expression :=
  fun w e h => endless_expression_of_nesting e.nesting w e ⟨h, Nat.le_refl _⟩

end Grammar

end SourceAudit.Query
