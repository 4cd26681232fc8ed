import SourceAudit.Proofs.Query.Parser

/-!
# Queries that are cut short

What a step does with some tokens it does whatever follows them, unless it uses them up. So the tokens of a query of
which the end is missing are read up to the last one, and the fault is that they have ended.

* `RunsOut r` : a step with the result `r` has used up its tokens;
* `Persists more r r'` : the result stays the same if `more` tokens follow, unless the tokens run out;
* `Steady p` : all results of a step persist, and without tokens it runs out;
* `Persists.bind`, `separated_persists` : steps in a row, and the loop over lists;
* `takeExpression_steady`, `takeQuery_of_prefix` : expressions, by induction on the levels left, and whole queries;
* `parse_cut_short` : a query that is cut short ends unexpectedly, at its last token.
-/

namespace SourceAudit.Query

variable {α β σ : Type} {ts more : List Token}

/-! ## Results on more tokens -/

/-- The tokens are used up, or were found to end too early. -/
def RunsOut : Except Fault (α × List Token) → Prop
  | .ok (_, rest) => rest = []
  | .error e => e = .endOfTokens

def withMore (more : List Token) (result : α × List Token) : α × List Token := (result.1, result.2 ++ more)

/-- The second result is the first one with more tokens behind, unless the tokens ran out. -/
def Persists (more : List Token) (r r' : Except Fault (α × List Token)) : Prop := RunsOut r ∨ r' = r.map (withMore more)

/-- The results of a step persist, and without tokens it runs out. -/
structure Steady (p : Step α) : Prop where
  runsOut : RunsOut (p [])
  persists : ∀ ts more, Persists more (p ts) (p (ts ++ more))

theorem Persists.bind {r r' : Except Fault (α × List Token)} {f : α × List Token → Except Fault (β × List Token)}
    (h : Persists more r r') (hout : ∀ a, RunsOut (f (a, [])))
    (hf : ∀ a ts, Persists more (f (a, ts)) (f (a, ts ++ more))) :
    Persists more (r >>= f) (r' >>= f) := by
  cases r with
  | error e =>
    rcases h with h | rfl
    · exact .inl h
    · exact .inr rfl
  | ok result =>
    obtain ⟨a, ts⟩ := result
    rcases h with rfl | rfl
    · exact .inl (hout a)
    · exact hf a ts

theorem expect_persists {kind : TokenKind} {context : String} {f : List Token → Except Fault (β × List Token)}
    (ts : List Token) (hf : ∀ ts, Persists more (f ts) (f (ts ++ more))) :
    Persists more (expect kind context ts >>= f) (expect kind context (ts ++ more) >>= f) := by
  cases ts with
  | nil => exact .inl rfl
  | cons t ts =>
    rw [List.cons_append, expect, expect]
    by_cases ht : t.kind = kind
    · rw [if_pos ht, if_pos ht]
      exact hf ts
    · rw [if_neg ht, if_neg ht]
      exact .inr rfl

theorem Steady.of_cons {p : Step α} (hnil : p [] = .error .endOfTokens)
    (hcons : ∀ t ts more, Persists more (p (t :: ts)) (p (t :: (ts ++ more)))) : Steady p := by
  refine ⟨hnil ▸ rfl, fun ts more => ?_⟩
  cases ts with
  | nil => exact .inl (hnil ▸ rfl)
  | cons t ts => exact hcons t ts more

/-! ## Lists -/

theorem nextIs_append {close : TokenKind} (hts : ts ≠ []) : nextIs close (ts ++ more) = nextIs close ts := by
  cases ts with
  | nil => exact absurd rfl hts
  | cons t ts => rfl

/-- A step that has not run out started with tokens, and does the same on more of them. -/
theorem Steady.extend {p : Step α} (h : Steady p) (hr : ¬RunsOut (p ts)) (more : List Token) :
    ts ≠ [] ∧ p (ts ++ more) = (p ts).map (withMore more) := by
  refine ⟨?_, (h.persists ts more).resolve_left hr⟩
  rintro rfl
  exact hr h.runsOut

/-- The loop over lists: each item persists, and so does the choice between a comma and the end of the list. -/
theorem separated_persists {close : TokenKind} {item : σ → Step σ} (hitem : ∀ s, Steady (item s)) (s : σ)
    (ts more : List Token) : Persists more (separated close item s ts) (separated close item s (ts ++ more)) := by
  -- where an item was read and tokens are left, the longer list starts with the same item
  have hlonger {s s' : σ} {ts rest : List Token} {t : Token} (hclose : ¬nextIs close ts = true)
      (hstep : item s ts = .ok (s', t :: rest)) :
      ¬nextIs close (ts ++ more) = true ∧ item s (ts ++ more) = .ok (s', t :: (rest ++ more)) := by
    obtain ⟨hne, hmore⟩ := (hitem s).extend (by rw [hstep]; exact List.cons_ne_nil t rest) more
    rw [hstep] at hmore
    exact ⟨by rwa [nextIs_append hne], hmore⟩
  have hlength (rest ts : List Token) : (rest ++ more).length < (ts ++ more).length ↔ rest.length < ts.length := by
    rw [List.length_append, List.length_append, Nat.add_lt_add_iff_right]
  fun_induction separated close item s ts with
  | case1 s ts hclose =>
    have hne : ts ≠ [] := by
      rintro rfl
      cases hclose
    rw [separated, nextIs_append hne, if_pos hclose]
    exact .inr rfl
  | case2 s ts hclose e hstep =>
    by_cases hr : RunsOut (item s ts)
    · rw [hstep] at hr
      exact .inl hr
    · obtain ⟨hne, hmore⟩ := (hitem s).extend hr more
      rw [hstep] at hmore
      rw [separated, nextIs_append hne, if_neg hclose, hmore]
      exact .inr rfl
  | case3 s ts hclose s' hstep => exact .inl rfl
  | case4 s ts hclose s' t rest hstep hcomma hlt ih =>
    obtain ⟨hclose', hmore⟩ := hlonger hclose hstep
    rw [separated.eq_def _ _ _ (ts ++ more), if_neg hclose', hmore]
    dsimp only
    rw [if_pos hcomma, if_pos ((hlength rest ts).mpr hlt)]
    exact ih
  | case5 s ts hclose s' t rest hstep hcomma hlt =>
    obtain ⟨hclose', hmore⟩ := hlonger hclose hstep
    rw [separated, if_neg hclose', hmore]
    dsimp only
    rw [if_pos hcomma, if_neg (mt (hlength rest ts).mp hlt)]
    exact .inr rfl
  | case6 s ts hclose s' t rest hstep hcomma =>
    obtain ⟨hclose', hmore⟩ := hlonger hclose hstep
    rw [separated, if_neg hclose', hmore]
    dsimp only
    rw [if_neg hcomma]
    exact .inr rfl

theorem collecting_eq_bind (item : Step α) (acc : List α) (ts : List Token) :
    collecting item acc ts = item ts >>= fun r => .ok (acc ++ [r.1], r.2) := by
  unfold collecting
  cases item ts with
  | error e => rfl
  | ok r => rfl

theorem Steady.collecting {item : Step α} (h : Steady item) (acc : List α) : Steady (collecting item acc) := by
  refine ⟨?_, fun ts more => ?_⟩
  · have hout := h.runsOut
    rw [collecting_eq_bind]
    generalize item [] = result at hout ⊢
    cases result with
    | error e => exact hout
    | ok r => exact hout
  · rw [collecting_eq_bind, collecting_eq_bind]
    exact (h.persists ts more).bind (fun _ => rfl) fun _ _ => .inr rfl

theorem Steady.oneOrList {item : Step α} (h : Steady item) (context : String) : Steady (oneOrList item context) := by
  refine .of_cons rfl fun t ts more => ?_
  rw [Query.oneOrList, Query.oneOrList]
  by_cases ht : t.kind = .leftBracket
  · rw [if_pos ht, if_pos ht]
    refine (separated_persists h.collecting [] ts more).bind (fun _ => rfl) fun as ts => ?_
    exact expect_persists ts fun _ => .inr rfl
  · rw [if_neg ht, if_neg ht]
    exact (h.persists (t :: ts) more).bind (fun _ => rfl) fun _ _ => .inr rfl

/-! ## Matchers -/

theorem takeIdentifier_steady (expectation : Expectation) : Steady (takeIdentifier expectation) := by
  refine .of_cons rfl fun t ts more => ?_
  rw [takeIdentifier, takeIdentifier]
  cases t.kind with
  | identifier name => exact .inr rfl
  | _ => exact .inr rfl

theorem takePattern_steady : Steady takePattern := by
  refine .of_cons rfl fun t ts more => ?_
  rw [takePattern, takePattern]
  cases t.kind with
  | regex value flags =>
    dsimp only
    cases flags.toList.find? (· ≠ 'i') with
    | some flag => exact .inr rfl
    | none => exact .inr rfl
  | _ => exact .inr rfl

theorem takePipedKinds_persists (kinds : StringSet) (ts more : List Token) :
    Persists more (takePipedKinds kinds ts) (takePipedKinds kinds (ts ++ more)) := by
  fun_induction takePipedKinds kinds ts with
  | case1 kinds => exact .inl rfl
  | case2 kinds t hpipe => exact .inl rfl
  | case3 kinds t hpipe u us name hname ih =>
    rw [List.cons_append, List.cons_append, takePipedKinds, if_pos hpipe]
    simp only [hname]
    exact ih
  | case4 kinds t hpipe u us hname =>
    rw [List.cons_append, List.cons_append, takePipedKinds, if_pos hpipe]
    split
    · rename_i name hkind
      exact absurd hkind (hname name)
    · exact .inr rfl
  | case5 kinds t ts hpipe =>
    rw [List.cons_append, takePipedKinds.eq_def]
    dsimp only
    rw [if_neg hpipe]
    exact .inr rfl

theorem takeListedKind_eq_bind (kinds : StringSet) (ts : List Token) :
    takeListedKind kinds ts = takeIdentifier .nodeKind ts >>= fun r => .ok (kinds.insert r.1, r.2) := by
  unfold takeListedKind
  cases takeIdentifier .nodeKind ts with
  | error e => rfl
  | ok r => rfl

theorem takeListedKind_steady (kinds : StringSet) : Steady (takeListedKind kinds) := by
  refine .of_cons rfl fun t ts more => ?_
  rw [takeListedKind_eq_bind, takeListedKind_eq_bind]
  exact ((takeIdentifier_steady .nodeKind).persists (t :: ts) more).bind (fun _ => rfl) fun _ _ => .inr rfl

/-- The kinds of a matcher: a list in brackets, or names with pipes between them. -/
theorem takeNodeKinds_cons (t : Token) (ts : List Token) :
    takeNodeKinds (t :: ts) =
      if t.kind = .leftBracket then do
        let r ← separated .rightBracket takeListedKind .empty ts
        let rest ← expect .rightBracket "to close node kind list" r.2
        return (r.1, rest)
      else takeIdentifier .nodeKind (t :: ts) >>= fun r => takePipedKinds (sortedSet [r.1]) r.2 := by
  rw [takeNodeKinds]
  split
  · cases separated .rightBracket takeListedKind .empty ts with
    | error e => rfl
    | ok r =>
      show _ = expect .rightBracket "to close node kind list" r.2 >>= fun rest => .ok (r.1, rest)
      dsimp only
      cases expect .rightBracket "to close node kind list" r.2 with
      | error e => rfl
      | ok rest => rfl
  · cases takeIdentifier .nodeKind (t :: ts) with
    | error e => rfl
    | ok r => rfl

theorem takeNodeKinds_steady : Steady takeNodeKinds := by
  refine .of_cons rfl fun t ts more => ?_
  rw [takeNodeKinds_cons, takeNodeKinds_cons]
  by_cases ht : t.kind = .leftBracket
  · rw [if_pos ht, if_pos ht]
    refine (separated_persists takeListedKind_steady .empty ts more).bind (fun _ => rfl) fun kinds ts => ?_
    exact expect_persists ts fun _ => .inr rfl
  · rw [if_neg ht, if_neg ht]
    refine ((takeIdentifier_steady .nodeKind).persists (t :: ts) more).bind (fun _ => rfl) fun name ts => ?_
    exact takePipedKinds_persists (sortedSet [name]) ts more

theorem takeOptions_persists (reason : Option String) (ts more : List Token) :
    Persists more (takeOptions reason ts) (takeOptions reason (ts ++ more)) := by
  fun_induction takeOptions reason ts with
  | case1 | case2 | case4 | case5 => exact .inl rfl
  | case3 reason t hcomma key ts hbrace =>
    rw [List.cons_append, List.cons_append, takeOptions.eq_def]
    simp only [if_pos hcomma, if_pos hbrace]
    exact .inr rfl
  | case6 reason t hcomma key hbrace hkey mark hcolon value ts text htext ih =>
    simp only [List.cons_append]
    rw [takeOptions.eq_def reason]
    simp only [if_pos hcomma, if_neg hbrace, if_pos hkey, if_pos hcolon, htext]
    exact ih
  | case7 reason t hcomma key hbrace hkey mark hcolon value ts htext =>
    simp only [List.cons_append]
    rw [takeOptions.eq_def]
    simp only [if_pos hcomma, if_neg hbrace, if_pos hkey, if_pos hcolon]
    exact .inr rfl
  | case8 reason t hcomma key hbrace hkey mark ts hcolon =>
    simp only [List.cons_append]
    rw [takeOptions.eq_def]
    simp only [if_pos hcomma, if_neg hbrace, if_pos hkey, if_neg hcolon]
    exact .inr rfl
  | case9 reason t hcomma key ts hbrace hkey =>
    simp only [List.cons_append]
    rw [takeOptions.eq_def]
    simp only [if_pos hcomma, if_neg hbrace, if_neg hkey]
    exact .inr rfl
  | case10 reason t ts hcomma =>
    rw [List.cons_append, takeOptions.eq_def]
    simp only [if_neg hcomma]
    exact .inr rfl

theorem takeMatcher_steady : Steady takeMatcher := by
  refine ⟨rfl, fun ts more => ?_⟩
  unfold takeMatcher
  refine expect_persists ts fun ts => ?_
  refine (takeNodeKinds_steady.persists ts more).bind (fun _ => rfl) fun kinds ts => ?_
  refine expect_persists ts fun ts => ?_
  refine ((takePattern_steady.oneOrList _).persists ts more).bind (fun _ => rfl) fun specs ts => ?_
  refine (takeOptions_persists none ts more).bind (fun _ => rfl) fun reason ts => ?_
  exact expect_persists ts fun _ => .inr rfl

theorem takeBareMatcher_steady : Steady takeBareMatcher :=
  ⟨rfl, fun ts more => (takeMatcher_steady.persists ts more).bind (fun _ => rfl) fun _ _ => .inr rfl⟩

/-! ## Expressions -/

theorem takeTaintField_steady (fields : TaintFields) : Steady (takeTaintField fields) := by
  refine .of_cons rfl fun t ts more => ?_
  rw [takeTaintField, takeTaintField]
  cases t.kind with
  | keyword word =>
    cases word with
    | source =>
      refine expect_persists ts fun ts => ?_
      cases fields.source.isSome with
      | true => exact .inr rfl
      | false => exact (takeBareMatcher_steady.persists ts more).bind (fun _ => rfl) fun _ _ => .inr rfl
    | sink =>
      refine expect_persists ts fun ts => ?_
      cases fields.sink.isSome with
      | true => exact .inr rfl
      | false => exact (takeBareMatcher_steady.persists ts more).bind (fun _ => rfl) fun _ _ => .inr rfl
    | sanitizer =>
      refine expect_persists ts fun ts => ?_
      exact ((takeBareMatcher_steady.oneOrList _).persists ts more).bind (fun _ => rfl) fun _ _ => .inr rfl
    | _ => exact .inr rfl
  | _ => exact .inr rfl

theorem takeTaint_persists (keyword : Token) (ts more : List Token) :
    Persists more (takeTaint keyword ts) (takeTaint keyword (ts ++ more)) := by
  unfold takeTaint
  refine expect_persists ts fun ts => ?_
  refine (separated_persists takeTaintField_steady {} ts more).bind (fun _ => rfl) fun fields ts => ?_
  refine expect_persists ts fun ts => ?_
  cases fields.source with
  | none => exact .inr rfl
  | some source =>
    cases fields.sink with
    | none => exact .inr rfl
    | some sink => exact .inr rfl

theorem takeLogical_persists {operand : Step Expr} (hoperand : Steady operand) (op : LogicalOp) (keyword : Token)
    (ts more : List Token) :
    Persists more (takeLogical op keyword operand ts) (takeLogical op keyword operand (ts ++ more)) := by
  unfold takeLogical
  refine expect_persists ts fun ts => ?_
  refine (separated_persists hoperand.collecting [] ts more).bind (fun _ => rfl) fun operands ts => ?_
  refine expect_persists ts fun ts => ?_
  dsimp only
  cases operands.isEmpty with
  | true => exact .inr rfl
  | false => exact .inr rfl

theorem takeExpression_matcher {t : Token} (ht : t.kind = .leftBrace) (levels : Nat) (ts : List Token) :
    takeExpression levels (t :: ts) = takeMatcher (t :: ts) >>= fun r => .ok (.pattern r.1.1 r.1.2, r.2) := by
  rw [takeExpression.eq_def]
  simp only [ht]
  cases takeMatcher (t :: ts) with
  | error e => rfl
  | ok r => rfl

theorem takeExpression_steady (levels : Nat) : Steady (takeExpression levels) := by
  induction levels using Nat.strongRecOn with
  | ind levels ih =>
    refine .of_cons (by rw [takeExpression.eq_def]) fun t ts more => ?_
    cases ht : t.kind with
    | leftBrace =>
      rw [takeExpression_matcher ht, takeExpression_matcher ht]
      exact (takeMatcher_steady.persists (t :: ts) more).bind (fun _ => rfl) fun _ _ => .inr rfl
    | keyword word =>
      rw [takeExpression.eq_def, takeExpression.eq_def levels (t :: (ts ++ more))]
      simp only [ht]
      cases word with
      | taint => exact takeTaint_persists t ts more
      | source | sink | sanitizer => exact .inr rfl
      | and | or | not =>
        cases levels with
        | zero => exact .inr rfl
        | succ levels => exact takeLogical_persists (ih levels (Nat.lt_succ_self levels)) _ t ts more
    | _ =>
      rw [takeExpression.eq_def, takeExpression.eq_def levels (t :: (ts ++ more))]
      simp only [ht]
      exact .inr rfl

/-! ## Queries -/

/-- A query of which the end is missing: the tokens have ended before the end marker. -/
theorem takeQuery_of_prefix {front : List Token} {e : Expr} (h : takeQuery (front ++ more) = .ok e)
    (hend : ∀ t ∈ front, t.kind ≠ .eof) : takeQuery front = .error .endOfTokens := by
  have hsteady := (takeExpression_steady maxNesting).persists front more
  unfold takeQuery at h ⊢
  cases hfront : takeExpression maxNesting front with
  | error fault =>
    rw [hfront] at hsteady
    rcases hsteady with rfl | hmore
    · rfl
    · rw [hmore] at h
      cases h
  | ok result =>
    obtain ⟨e', rest⟩ := result
    cases rest with
    | nil => rfl
    | cons t rest =>
      -- the expression ends before a token of the front, which would be the end marker
      obtain ⟨used, hused, -⟩ := (takeExpression_reads _ _ _ _).mp hfront
      have ht : t.kind ≠ .eof := hend t (by rw [hused]; simp)
      rw [hfront] at hsteady
      rw [hsteady.resolve_left (List.cons_ne_nil t rest)] at h
      change (if t.kind = .eof then _ else _) = _ at h
      rw [if_neg ht] at h
      cases h

/-- **A query that is cut short ends unexpectedly, at its last token.** Of a stream of tokens that has a query, every
part from the start that holds no end marker is refused, because the tokens have ended; the position is that of the
last of them, or the start of the query if there are none. -/
theorem parse_cut_short {tokens front : List Token} {q : Query} (h : parse tokens = .ok q) (hfront : front <+: tokens)
    (hend : ∀ t ∈ front, t.kind ≠ .eof) :
    ∃ e, parse front = .error e ∧ e.cause.message = "unexpected end of query" ∧
      e.position = match front.getLast? with
        | some last => last.position
        | none => ⟨0, 1, 1⟩ := by
  obtain ⟨more, rfl⟩ := hfront
  have hquery : takeQuery (front ++ more) = .ok q.expression := by
    unfold parse at h
    split at h
    · cases h
    · rename_i e he
      cases h
      exact he
  refine ⟨_, by rw [parse, takeQuery_of_prefix hquery hend], rfl, ?_⟩
  rw [Fault.locate]
  cases front.getLast? with
  | none => rfl
  | some last => rfl

/-- Behind a pipe between two node kinds: the kind before it is complete, and the matcher is not. -/
theorem parse_cut_short_behind_pipe :
    ∃ q e, parse (tokenize "NOT(\x7bA|B: x\x7d)") = .ok q ∧ parse ((tokenize "NOT(\x7bA|B: x\x7d)").take 5) = .error e ∧
      e.cause.message = "unexpected end of query" ∧ e.position = ⟨6, 1, 7⟩ := by
  have hread : (parse (tokenize "NOT(\x7bA|B: x\x7d)")).toOption.isSome = true := by decide +kernel
  cases hq : parse (tokenize "NOT(\x7bA|B: x\x7d)") with
  | error e =>
    rw [hq] at hread
    cases hread
  | ok q =>
    obtain ⟨e, he, hmessage, hposition⟩ := parse_cut_short hq (List.take_prefix 5 _) (by decide +kernel)
    exact ⟨q, e, rfl, he, hmessage, hposition.trans (by decide +kernel)⟩

end SourceAudit.Query
