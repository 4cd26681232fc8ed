import SourceAudit.Proofs.Query.Matcher

/-!
# The parser reads exactly the grammar

* `takeTaintField_extends`, `foldlM_put` : the fields of a TAINT, with exactly one source and one sink;
* `takeExpression_reads` : expressions, by induction on the levels left;
* `parse_ok_iff` : a token stream has a query exactly if the tokens before the first end marker are a word of the
  grammar, nested at most 64 deep.
-/

namespace SourceAudit.Query

open Grammar

variable {α : Type}

/-! ## Fields of a TAINT -/

/-- What a field does to the fields before it; a second source or sink is refused. -/
def TaintFields.put (fields : TaintFields) : FieldValue → Option TaintFields
  | .source m => if fields.source.isSome then none else some { fields with source := some m }
  | .sink m => if fields.sink.isSome then none else some { fields with sink := some m }
  | .sanitizers ms => some { fields with sanitizers := fields.sanitizers ++ ms }

theorem field_opens : Opens Field .rightBrace := by
  intro w value h
  cases h <;> exact ⟨_, _, rfl, nofun⟩

/-- What a field with a given keyword reads after its colon. -/
inductive FieldBody : Keyword → Phrase FieldValue where
  | source {w : List TokenKind} {m : NodeMatcher} : BareMatcher w m → FieldBody .source w (.source m)
  | sink {w : List TokenKind} {m : NodeMatcher} : BareMatcher w m → FieldBody .sink w (.sink m)
  | sanitizer {w : List TokenKind} {ms : List NodeMatcher} :
      ShortOrList (Single BareMatcher) BareMatcher w ms → FieldBody .sanitizer w (.sanitizers ms)

theorem field_iff (w : List TokenKind) (value : FieldValue) :
    Field w value ↔ ∃ word v, w = .keyword word :: .colon :: v ∧ FieldBody word v value := by
  constructor
  · rintro (h | h | h)
    · exact ⟨_, _, rfl, .source h⟩
    · exact ⟨_, _, rfl, .sink h⟩
    · exact ⟨_, _, rfl, .sanitizer h⟩
  · rintro ⟨word, v, rfl, h | h | h⟩
    · exact .source h
    · exact .sink h
    · exact .sanitizer h

theorem field_cons_iff (t : Token) (ts rest : List Token) (value : FieldValue) :
    (∃ used, t :: ts = used ++ rest ∧ Field (used.map Token.kind) value) ↔
      ∃ word colon used, t.kind = .keyword word ∧ ts = colon :: (used ++ rest) ∧ colon.kind = .colon ∧
        FieldBody word (used.map Token.kind) value := by
  simp only [field_iff]
  constructor
  · rintro ⟨used, hts, word, v, hw, hbody⟩
    obtain ⟨u, us, rfl, hu, h₁⟩ := List.map_eq_cons_iff.mp hw
    obtain ⟨colon, us, rfl, hcolon, rfl⟩ := List.map_eq_cons_iff.mp h₁
    cases hts
    exact ⟨word, colon, us, hu, rfl, hcolon, hbody⟩
  · rintro ⟨word, colon, used, ht, rfl, hcolon, hbody⟩
    exact ⟨t :: colon :: used, rfl, word, _, by rw [List.map_cons, List.map_cons, ht, hcolon], hbody⟩

theorem takeTaintField_extends : Extends takeTaintField Field TaintFields.put := by
  intro fields ts fields' rest
  cases ts with
  | nil =>
    refine iff_of_false nofun ?_
    rintro ⟨used, value, hts, hx, -⟩
    obtain ⟨k, v, hw, -⟩ := field_opens _ _ hx
    rw [(List.append_eq_nil_iff.mp hts.symm).1] at hw
    cases hw
  | cons t ts =>
    constructor
    · intro h
      rw [takeTaintField] at h
      have hbody : ∃ word colon used value, t.kind = .keyword word ∧ ts = colon :: (used ++ rest) ∧
          colon.kind = .colon ∧ FieldBody word (used.map Token.kind) value ∧ fields.put value = some fields' := by
        split at h
        · rename_i hk
          simp only [bind_ok_iff, expect_ok_iff] at h
          obtain ⟨mid, ⟨colon, rfl, hcolon⟩, h⟩ := h
          split_ifs at h with hdup
          · cases h
          · simp only [bind_ok_iff, Prod.exists, pure, Except.pure, Except.ok.injEq, Prod.mk.injEq] at h
            obtain ⟨m, _, hm, rfl, rfl⟩ := h
            obtain ⟨used, rfl, hx⟩ := (takeBareMatcher_reads _ _ _).mp hm
            exact ⟨_, colon, used, .source m, hk, rfl, hcolon, .source hx, if_neg hdup⟩
        · rename_i hk
          simp only [bind_ok_iff, expect_ok_iff] at h
          obtain ⟨mid, ⟨colon, rfl, hcolon⟩, h⟩ := h
          split_ifs at h with hdup
          · cases h
          · simp only [bind_ok_iff, Prod.exists, pure, Except.pure, Except.ok.injEq, Prod.mk.injEq] at h
            obtain ⟨m, _, hm, rfl, rfl⟩ := h
            obtain ⟨used, rfl, hx⟩ := (takeBareMatcher_reads _ _ _).mp hm
            exact ⟨_, colon, used, .sink m, hk, rfl, hcolon, .sink hx, if_neg hdup⟩
        · rename_i hk
          simp only [bind_ok_iff, expect_ok_iff, Prod.exists, pure, Except.pure, Except.ok.injEq, Prod.mk.injEq] at h
          obtain ⟨mid, ⟨colon, rfl, hcolon⟩, ms, _, hms, rfl, rfl⟩ := h
          obtain ⟨used, rfl, hx⟩ := (takeSanitizers_reads _ _ _).mp hms
          exact ⟨_, colon, used, .sanitizers ms, hk, rfl, hcolon, .sanitizer hx, rfl⟩
        · cases h
      obtain ⟨word, colon, used, value, ht, hts, hcolon, hbody, hput⟩ := hbody
      obtain ⟨used, hts, hx⟩ := (field_cons_iff _ _ _ _).mpr ⟨word, colon, used, ht, hts, hcolon, hbody⟩
      exact ⟨used, value, hts, hx, hput⟩
    · rintro ⟨used, value, hts, hx, hput⟩
      obtain ⟨word, colon, used, ht, rfl, hcolon, hbody⟩ := (field_cons_iff _ _ _ _).mp ⟨used, hts, hx⟩
      have hexp := fun context => (expect_ok_iff .colon context (colon :: (used ++ rest)) _).mpr ⟨colon, rfl, hcolon⟩
      rw [takeTaintField, ht]
      cases hbody with
      | @source _ m hm =>
        rw [TaintFields.put] at hput
        split_ifs at hput with hdup
        cases hput
        refine (bind_ok_iff _ _ _).mpr ⟨used ++ rest, hexp _, ?_⟩
        rw [if_neg hdup]
        exact (bind_ok_iff _ _ _).mpr ⟨(m, rest), (takeBareMatcher_reads _ _ _).mpr ⟨used, rfl, hm⟩, rfl⟩
      | @sink _ m hm =>
        rw [TaintFields.put] at hput
        split_ifs at hput with hdup
        cases hput
        refine (bind_ok_iff _ _ _).mpr ⟨used ++ rest, hexp _, ?_⟩
        rw [if_neg hdup]
        exact (bind_ok_iff _ _ _).mpr ⟨(m, rest), (takeBareMatcher_reads _ _ _).mpr ⟨used, rfl, hm⟩, rfl⟩
      | @sanitizer _ ms hms =>
        cases hput
        refine (bind_ok_iff _ _ _).mpr ⟨used ++ rest, hexp _, ?_⟩
        exact (bind_ok_iff _ _ _).mpr ⟨(ms, rest), (takeSanitizers_reads _ _ _).mpr ⟨used, rfl, hms⟩, rfl⟩

theorem toList_eq_toList_iff (a b : Option α) : a.toList = b.toList ↔ a = b := by
  cases a <;> cases b <;> simp

theorem cons_cons_ne_toList (a b : α) (as : List α) (o : Option α) : a :: b :: as ≠ o.toList := by
  cases o <;> simp

/-- Several fields put one after the other: each of SOURCE and SINK is given at most once, and the sanitizers add up. -/
theorem foldlM_put (values : List FieldValue) (fields result : TaintFields) :
    values.foldlM TaintFields.put fields = some result ↔
      fields.sanitizers ++ values.flatMap FieldValue.sanitizerList = result.sanitizers ∧
        fields.source.toList ++ values.filterMap FieldValue.source? = result.source.toList ∧
        fields.sink.toList ++ values.filterMap FieldValue.sink? = result.sink.toList := by
  induction values generalizing fields with
  | nil =>
    obtain ⟨source, sink, sanitizers⟩ := fields
    obtain ⟨source', sink', sanitizers'⟩ := result
    simp only [List.foldlM_nil, pure, Option.some.injEq, TaintFields.mk.injEq, List.flatMap_nil, List.filterMap_nil,
      List.append_nil, toList_eq_toList_iff]
    tauto
  | cons value values ih =>
    obtain ⟨source, sink, sanitizers⟩ := fields
    rw [List.foldlM_cons]
    cases value with
    | source m =>
      cases source with
      | none => exact ih ⟨some m, sink, sanitizers⟩
      | some m' =>
        refine iff_of_false nofun ?_
        rintro ⟨-, h, -⟩
        exact cons_cons_ne_toList _ _ _ _ h
    | sink m =>
      cases sink with
      | none => exact ih ⟨source, some m, sanitizers⟩
      | some m' =>
        refine iff_of_false nofun ?_
        rintro ⟨-, -, h⟩
        exact cons_cons_ne_toList _ _ _ _ h
    | sanitizers ms =>
      have h := ih ⟨source, sink, sanitizers ++ ms⟩
      rw [List.append_assoc] at h
      exact h

/-! ## Expressions -/

theorem logicalOp?_eq_some_iff (word : Keyword) (op : LogicalOp) : logicalOp? word = some op ↔ word = op.keyword := by
  cases word <;> cases op <;> simp [logicalOp?, LogicalOp.keyword]

theorem expression_opens : Opens Expression .rightParen := by
  intro w e h
  cases h with
  | taint => exact ⟨_, _, rfl, nofun⟩
  | logical => exact ⟨_, _, rfl, nofun⟩
  | pattern h =>
    cases h
    exact ⟨_, _, rfl, nofun⟩

theorem takeTaint_ok_iff (t : Token) (e : Expr) (ts rest : List Token) :
    takeTaint t ts = .ok (e, rest) ↔
      ∃ left used w fields source sink, ts = left :: (used ++ rest) ∧ left.kind = .leftBrace ∧
        used.map Token.kind = w ++ [.rightBrace] ∧ Listed Field w fields ∧
        fields.filterMap FieldValue.source? = [source] ∧ fields.filterMap FieldValue.sink? = [sink] ∧
        e = .taint source sink (fields.flatMap FieldValue.sanitizerList) := by
  have hlist := fun mid fields => separated_ok_iff takeTaintField_extends field_opens (by decide) {} fields mid rest
    "to close TAINT"
  simp only [foldlM_put] at hlist
  simp only [takeTaint, bind_ok_iff, expect_ok_iff .leftBrace, Prod.exists]
  constructor
  · rintro ⟨_, ⟨left, rfl, hleft⟩, result, mid, hsep, rest', hexp, h⟩
    obtain ⟨source', sink', sanitizers⟩ := result
    cases source' with
    | none => cases h
    | some source =>
      cases sink' with
      | none => cases h
      | some sink =>
        cases h
        obtain ⟨used, fields, w, rfl, hw, hx, rfl, hsource, hsink⟩ := (hlist _ _).mp ⟨mid, hsep, hexp⟩
        exact ⟨left, used, w, fields, source, sink, rfl, hleft, hw, hx, hsource, hsink, rfl⟩
  · rintro ⟨left, used, w, fields, source, sink, rfl, hleft, hw, hx, hsource, hsink, rfl⟩
    obtain ⟨mid, hsep, hexp⟩ := (hlist (used ++ rest) ⟨source, sink, fields.flatMap FieldValue.sanitizerList⟩).mpr
      ⟨used, fields, w, rfl, hw, hx, rfl, hsource, hsink⟩
    exact ⟨used ++ rest, ⟨left, rfl, hleft⟩, _, mid, hsep, rest, hexp, rfl⟩

theorem takeLogical_ok_iff {operand : Step Expr} {x : Phrase Expr} (hoperand : Reads operand x)
    (hopens : Opens x .rightParen) (op : LogicalOp) (t : Token) (e : Expr) (ts rest : List Token) :
    takeLogical op t operand ts = .ok (e, rest) ↔
      ∃ left used w es, ts = left :: (used ++ rest) ∧ left.kind = .leftParen ∧
        used.map Token.kind = w ++ [.rightParen] ∧ Listed x w es ∧ es ≠ [] ∧ e = .logical op es := by
  have hlist := fun mid es => collected_ok_iff hoperand hopens (by decide) es mid rest ("to close " ++ op.name)
  simp only [takeLogical, bind_ok_iff, expect_ok_iff .leftParen, Prod.exists]
  constructor
  · rintro ⟨_, ⟨left, rfl, hleft⟩, es, mid, hsep, rest', hexp, h⟩
    split_ifs at h with hempty
    · cases h
    · cases h
      obtain ⟨used, w, rfl, hw, hx⟩ := (hlist _ _).mp ⟨mid, hsep, hexp⟩
      exact ⟨left, used, w, es, rfl, hleft, hw, hx, fun h => hempty (by rw [h]; rfl), rfl⟩
  · rintro ⟨left, used, w, es, rfl, hleft, hw, hx, hne, rfl⟩
    obtain ⟨mid, hsep, hexp⟩ := (hlist (used ++ rest) es).mpr ⟨used, w, rfl, hw, hx⟩
    refine ⟨used ++ rest, ⟨left, rfl, hleft⟩, es, mid, hsep, rest, hexp, ?_⟩
    rw [if_neg (by rwa [List.isEmpty_iff])]
    rfl

/-- The words of expressions that nest at most `levels` deep. -/
def Shallow (levels : Nat) : Phrase Expr := fun w e => Expression w e ∧ e.nesting ≤ levels

theorem shallow_opens (levels : Nat) : Opens (Shallow levels) .rightParen := fun w e h => expression_opens w e h.1

theorem takeExpression_taint {t : Token} (ht : t.kind = .keyword .taint) (levels : Nat) (ts : List Token) :
    takeExpression levels (t :: ts) = takeTaint t ts := by
  rw [takeExpression.eq_def]
  simp only [ht]

theorem takeExpression_logical {t : Token} {op : LogicalOp} (ht : t.kind = .keyword op.keyword) (levels : Nat)
    (ts : List Token) :
    takeExpression (levels + 1) (t :: ts) = takeLogical op t (takeExpression levels) ts := by
  rw [takeExpression.eq_def]
  cases op <;> simp only [ht, LogicalOp.keyword, logicalOp?]

theorem takeExpression_leftBrace {t : Token} (ht : t.kind = .leftBrace) (levels : Nat) (e : Expr)
    (ts rest : List Token) :
    takeExpression levels (t :: ts) = .ok (e, rest) ↔
      ∃ m reason, takeMatcher (t :: ts) = .ok ((m, reason), rest) ∧ e = .pattern m reason := by
  rw [takeExpression.eq_def]
  simp only [ht]
  cases takeMatcher (t :: ts) with
  | error fault => simp
  | ok result =>
    obtain ⟨⟨m, reason⟩, mid⟩ := result
    simp [eq_comm, and_comm, and_assoc]

theorem takeExpression_ok_first {levels : Nat} {e : Expr} {ts rest : List Token}
    (h : takeExpression levels ts = .ok (e, rest)) :
    ∃ t us, ts = t :: us ∧ (t.kind = .keyword .taint ∨ t.kind = .leftBrace ∨
      ∃ op n, t.kind = .keyword (LogicalOp.keyword op) ∧ levels = n + 1) := by
  rw [takeExpression.eq_def] at h
  split at h
  · cases h
  · rename_i t ts
    refine ⟨t, ts, rfl, ?_⟩
    split at h
    · rename_i hk
      exact Or.inl hk
    · rename_i word hk
      split at h
      · cases h
      · rename_i op hop
        rw [logicalOp?_eq_some_iff] at hop
        split at h
        · cases h
        · exact Or.inr (Or.inr ⟨op, _, hop ▸ hk, rfl⟩)
    · rename_i hk
      exact Or.inr (Or.inl hk)
    · cases h

theorem takeExpression_reads (levels : Nat) : Reads (takeExpression levels) (Shallow levels) := by
  induction levels using Nat.strong_induction_on with
  | _ levels ih =>
    intro ts e rest
    constructor
    · intro h
      obtain ⟨t, ts, rfl, ht | ht | ⟨op, n, ht, rfl⟩⟩ := takeExpression_ok_first h
      · rw [takeExpression_taint ht] at h
        obtain ⟨left, used, w, fields, source, sink, rfl, hleft, hw, hx, hsource, hsink, rfl⟩ :=
          (takeTaint_ok_iff _ _ _ _).mp h
        refine ⟨t :: left :: used, rfl, ?_, Nat.zero_le _⟩
        rw [List.map_cons, List.map_cons, ht, hleft, hw]
        exact .taint hx hsource hsink
      · obtain ⟨m, reason, hm, rfl⟩ := (takeExpression_leftBrace ht _ _ _ _).mp h
        obtain ⟨used, hts, hx⟩ := (takeMatcher_reads _ _ _).mp hm
        exact ⟨used, hts, .pattern hx, Nat.zero_le _⟩
      · rw [takeExpression_logical ht] at h
        obtain ⟨left, used, w, es, rfl, hleft, hw, hx, hne, rfl⟩ :=
          (takeLogical_ok_iff (ih n (Nat.lt_succ_self n)) (shallow_opens n) _ _ _ _ _).mp h
        obtain ⟨hx, hnest⟩ := listed_and_iff.mp hx
        refine ⟨t :: left :: used, rfl, ?_, ?_⟩
        · rw [List.map_cons, List.map_cons, ht, hleft, hw]
          exact .logical op hx hne
        · rw [Expr.nesting]
          exact Nat.succ_le_succ ((nestingAll_le_iff es n).mpr hnest)
    · rintro ⟨used, rfl, hx, hnest⟩
      generalize hw : used.map Token.kind = w at hx
      cases hx with
      | @taint v fields source sink hx hsource hsink =>
        obtain ⟨t, us, rfl, ht, h₁⟩ := List.map_eq_cons_iff.mp hw
        obtain ⟨left, us, rfl, hleft, h₂⟩ := List.map_eq_cons_iff.mp h₁
        rw [List.cons_append, takeExpression_taint ht]
        exact (takeTaint_ok_iff _ _ _ _).mpr ⟨left, us, v, fields, source, sink, rfl, hleft, h₂, hx,
          hsource, hsink, rfl⟩
      | @logical op v es hx hne =>
        obtain ⟨t, us, rfl, ht, h₁⟩ := List.map_eq_cons_iff.mp hw
        obtain ⟨left, us, rfl, hleft, h₂⟩ := List.map_eq_cons_iff.mp h₁
        rw [Expr.nesting] at hnest
        obtain ⟨n, rfl⟩ : ∃ n, levels = n + 1 := ⟨levels - 1, by omega⟩
        have hes := (nestingAll_le_iff es n).mp (Nat.le_of_succ_le_succ hnest)
        rw [List.cons_append, takeExpression_logical ht]
        exact (takeLogical_ok_iff (ih n (Nat.lt_succ_self n)) (shallow_opens n) _ _ _ _ _).mpr
          ⟨left, us, v, es, rfl, hleft, h₂, listed_and_iff.mpr ⟨hx, hes⟩, hne, rfl⟩
      | @pattern _ m reason hx =>
        have hm := (takeMatcher_reads (used ++ rest) (m, reason) rest).mpr ⟨used, rfl, hw ▸ hx⟩
        obtain ⟨v, rfl⟩ := hx.first
        obtain ⟨t, us, rfl, ht, -⟩ := List.map_eq_cons_iff.mp hw
        exact (takeExpression_leftBrace ht _ _ _ _).mpr ⟨m, reason, hm, rfl⟩

/-! ## Queries -/

theorem takeQuery_ok_iff (tokens : List Token) (e : Expr) :
    takeQuery tokens = .ok e ↔
      ∃ used t rest, tokens = used ++ t :: rest ∧ t.kind = .eof ∧ Shallow maxNesting (used.map Token.kind) e := by
  rw [takeQuery]
  constructor
  · intro h
    split at h
    · cases h
    · cases h
    · rename_i t rest hread
      split_ifs at h with ht
      · cases h
        obtain ⟨used, hts, hx⟩ := (takeExpression_reads _ _ _ _).mp hread
        exact ⟨used, t, rest, hts, ht, hx⟩
  · rintro ⟨used, t, rest, hts, ht, hx⟩
    rw [(takeExpression_reads _ _ _ _).mpr ⟨used, hts, hx⟩]
    exact if_pos ht

/-- The tokens before the first end marker, where no marker is among those before a marker. -/
theorem takeWhile_before_eof {used : List Token} {t : Token} (hused : .eof ∉ used.map Token.kind) (ht : t.kind = .eof)
    (rest : List Token) : (used ++ t :: rest).takeWhile (·.kind ≠ .eof) = used := by
  rw [List.takeWhile_append_of_pos, List.takeWhile_cons_of_neg, List.append_nil]
  · simpa using ht
  · intro u hu
    have hne : u.kind ≠ .eof := fun h => hused (h ▸ List.mem_map_of_mem hu)
    simpa using hne

/-- A stream with an end marker splits at its first one. -/
theorem exists_first_eof {tokens : List Token} {t : Token} (hmem : t ∈ tokens) (ht : t.kind = .eof) :
    ∃ used u rest, tokens = used ++ u :: rest ∧ u.kind = .eof ∧ .eof ∉ used.map Token.kind := by
  obtain ⟨u, hfind⟩ := Option.isSome_iff_exists.mp
    (List.find?_isSome.mpr ⟨t, hmem, decide_eq_true ht⟩ : (tokens.find? (·.kind = .eof)).isSome)
  obtain ⟨hu, used, rest, rfl, hused⟩ := List.find?_eq_some_iff_append.mp hfind
  refine ⟨used, u, rest, rfl, of_decide_eq_true hu, fun hmem => ?_⟩
  obtain ⟨v, hv, hkind⟩ := List.mem_map.mp hmem
  simpa [hkind] using hused v hv

/-- **A token stream has a query exactly if it holds an end marker and the tokens before the first one are a word of the
grammar, nested at most 64 deep**; the query is the value of the word, without metadata. -/
theorem parse_ok_iff (tokens : List Token) (q : Query) :
    parse tokens = .ok q ↔
      (∃ t ∈ tokens, t.kind = .eof) ∧
        Expression ((tokens.takeWhile (·.kind ≠ .eof)).map Token.kind) q.expression ∧
        q.expression.nesting ≤ 64 ∧ q.metadata = {} := by
  have hquery := takeQuery_ok_iff tokens
  rw [parse]
  constructor
  · intro h
    split at h
    · cases h
    · rename_i e he
      cases h
      obtain ⟨used, t, rest, rfl, ht, hx, hnest⟩ := (hquery e).mp he
      refine ⟨⟨t, by simp, ht⟩, ?_, hnest, rfl⟩
      rw [takeWhile_before_eof (endless_expression _ _ hx) ht]
      exact hx
  · rintro ⟨⟨t, hmem, ht⟩, hx, hnest, hmeta⟩
    obtain ⟨expression, metadata⟩ := q
    obtain rfl : metadata = {} := hmeta
    obtain ⟨used, u, rest, rfl, hu, hused⟩ := exists_first_eof hmem ht
    rw [takeWhile_before_eof hused hu] at hx
    rw [(hquery expression).mpr ⟨used, u, rest, rfl, hu, hx, hnest⟩]

end SourceAudit.Query
