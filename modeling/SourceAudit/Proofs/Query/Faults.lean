import SourceAudit.Proofs.Query.Parser
import SourceAudit.Proofs.Query.Positions

/-!
# Where parsing stops

A stream of tokens that ends with an end marker is never read to its end, because no step takes the marker. So parsing
stops at a token.

* `Remains all ts` : the tokens `ts` are left of the stream `all`, and the end marker is the last of them;
* `Fault.IsIn all` : the fault is at a token of the stream;
* `Keeps all left r`, `Safe all p` : a result, and every result of a step, leaves tokens of the stream or is a fault
  in it;
* `Keeps.bind`, `separated_keeps` : steps in a row, and the loop over lists;
* `takeExpression_safe`, `takeQuery_fault` : so every fault of a query is at one of its tokens;
* `positions_exact` : tokens and syntax errors have the positions of what they are about.
-/

namespace SourceAudit.Query

variable {α β γ σ : Type} {all ts : List Token} {t : Token}

/-! ## What is left of a stream -/

/-- The tokens are left of a stream, and the end marker is the last of them. -/
structure Remains (all ts : List Token) : Prop where
  suffix : ts <:+ all
  marked : ∃ t, ts.getLast? = some t ∧ t.kind = .eof

theorem Remains.ne_nil (h : Remains all ts) : ts ≠ [] := by
  rintro rfl
  obtain ⟨t, ht, -⟩ := h.marked
  cases ht

theorem Remains.mem (h : Remains all (t :: ts)) : t ∈ all := h.suffix.subset List.mem_cons_self

theorem Remains.take {kind : TokenKind} (h : Remains all (t :: ts)) (ht : t.kind = kind) (hkind : kind ≠ .eof) :
    Remains all ts := by
  obtain ⟨last, hlast, heof⟩ := h.marked
  refine ⟨(List.suffix_cons t ts).trans h.suffix, last, ?_, heof⟩
  cases ts with
  | nil =>
    cases hlast
    exact absurd (ht.symm.trans heof) hkind
  | cons u us => rwa [List.getLast?_cons_cons] at hlast

/-- The fault is at a token of a stream, and does not say that the stream has ended. -/
def Fault.IsIn (all : List Token) : Fault → Prop
  | .atToken t cause => t ∈ all ∧ cause ≠ .unexpectedEnd
  | .endOfTokens => False

/-- A result leaves tokens of a stream, or is a fault in it. -/
def Keeps (all : List Token) (left : β → List Token) : Except Fault β → Prop
  | .ok b => Remains all (left b)
  | .error e => e.IsIn all

def Safe (all : List Token) (p : Step α) : Prop := ∀ ts, Remains all ts → Keeps all Prod.snd (p ts)

theorem Keeps.bind {left : β → List Token} {left' : γ → List Token} {r : Except Fault β} {f : β → Except Fault γ}
    (hr : Keeps all left r) (hf : ∀ b, Remains all (left b) → Keeps all left' (f b)) : Keeps all left' (r >>= f) := by
  cases r with
  | error e => exact hr
  | ok b => exact hf b hr

theorem unexpected_isIn (h : Remains all (t :: ts)) (expectation : Expectation) : (unexpected t expectation).IsIn all :=
  ⟨h.mem, by simp⟩

theorem expect_keeps {kind : TokenKind} (hkind : kind ≠ .eof) (context : String) (h : Remains all ts) :
    Keeps all id (expect kind context ts) := by
  cases ts with
  | nil => exact absurd rfl h.ne_nil
  | cons t ts =>
    rw [expect]
    by_cases ht : t.kind = kind
    · rw [if_pos ht]
      exact h.take ht hkind
    · rw [if_neg ht]
      exact unexpected_isIn h _

/-! ## Lists -/

/-- The loop over lists: every item keeps to the stream, and so do the commas between them. -/
theorem separated_keeps {close : TokenKind} {item : σ → Step σ} (hitem : ∀ s, Safe all (item s)) (s : σ)
    (h : Remains all ts) : Keeps all Prod.snd (separated close item s ts) := by
  fun_induction separated close item s ts with
  | case1 s ts hclose => exact h
  | case2 s ts hclose e hstep =>
    have hfault := hitem s ts h
    rwa [hstep] at hfault
  | case3 s ts hclose s' hstep =>
    have hrest := hitem s ts h
    rwa [hstep] at hrest
  | case4 s ts hclose s' t rest hstep hcomma hlt ih =>
    have hrest := hitem s ts h
    rw [hstep] at hrest
    exact ih (Remains.take hrest hcomma (by simp))
  | case5 s ts hclose s' t rest hstep hcomma hlt =>
    have hrest := hitem s ts h
    rwa [hstep] at hrest
  | case6 s ts hclose s' t rest hstep hcomma =>
    have hrest := hitem s ts h
    rwa [hstep] at hrest

theorem Safe.collecting {item : Step α} (hitem : Safe all item) (acc : List α) : Safe all (collecting item acc) := by
  intro ts h
  have hstep := hitem ts h
  unfold Query.collecting
  generalize item ts = result at hstep ⊢
  cases result with
  | error e => exact hstep
  | ok p => exact hstep

theorem Safe.oneOrList {item : Step α} (hitem : Safe all item) (context : String) :
    Safe all (oneOrList item context) := by
  intro ts h
  cases ts with
  | nil => exact absurd rfl h.ne_nil
  | cons t ts =>
    rw [Query.oneOrList]
    by_cases ht : t.kind = .leftBracket
    · rw [if_pos ht]
      have htail : Remains all ts := h.take ht (by simp)
      refine (separated_keeps hitem.collecting [] htail).bind fun p hrest => ?_
      exact (expect_keeps (by simp) context hrest).bind fun rest hrest => hrest
    · rw [if_neg ht]
      exact (hitem _ h).bind fun p hrest => hrest

/-! ## Matchers -/

theorem takeIdentifier_safe (expectation : Expectation) : Safe all (takeIdentifier expectation) := by
  intro ts h
  cases ts with
  | nil => exact absurd rfl h.ne_nil
  | cons t ts =>
    rw [takeIdentifier]
    cases hkind : t.kind with
    | identifier name => exact h.take hkind (by simp)
    | _ => exact unexpected_isIn h _

theorem takePattern_safe : Safe all takePattern := by
  intro ts h
  cases ts with
  | nil => exact absurd rfl h.ne_nil
  | cons t ts =>
    rw [takePattern]
    cases hkind : t.kind with
    | string value => exact h.take hkind (by simp)
    | identifier name => exact h.take hkind (by simp)
    | regex value flags =>
      dsimp only
      cases flags.toList.find? (· ≠ 'i') with
      | some flag => exact ⟨h.mem, by simp⟩
      | none => exact h.take hkind (by simp)
    | _ => exact unexpected_isIn h _

theorem takePipedKinds_keeps (kinds : StringSet) (h : Remains all ts) :
    Keeps all Prod.snd (takePipedKinds kinds ts) := by
  fun_induction takePipedKinds kinds ts with
  | case1 kinds => exact h
  | case2 kinds t hpipe => exact absurd rfl (h.take hpipe (by simp)).ne_nil
  | case3 kinds t hpipe u us name hname ih => exact ih ((h.take hpipe (by simp)).take hname (by simp))
  | case4 kinds t hpipe u us hname => exact unexpected_isIn (h.take hpipe (by simp)) _
  | case5 kinds t ts hpipe => exact h

theorem takeListedKind_safe (kinds : StringSet) : Safe all (takeListedKind kinds) := by
  intro ts h
  have hstep := takeIdentifier_safe .nodeKind ts h
  unfold takeListedKind
  generalize takeIdentifier .nodeKind ts = result at hstep ⊢
  cases result with
  | error e => exact hstep
  | ok p => exact hstep

theorem takeNodeKinds_safe : Safe all takeNodeKinds := by
  intro ts h
  cases ts with
  | nil => exact absurd rfl h.ne_nil
  | cons t ts =>
    rw [takeNodeKinds]
    by_cases ht : t.kind = .leftBracket
    · rw [if_pos ht]
      have hlist : Keeps all Prod.snd (separated .rightBracket takeListedKind .empty ts) :=
        separated_keeps takeListedKind_safe .empty (h.take ht (by simp))
      generalize separated .rightBracket takeListedKind .empty ts = result at hlist ⊢
      cases result with
      | error e => exact hlist
      | ok p =>
        have hclose : Keeps all id (expect .rightBracket "to close node kind list" p.2) :=
          expect_keeps (by simp) _ hlist
        dsimp only
        generalize expect .rightBracket "to close node kind list" p.2 = closed at hclose ⊢
        cases closed with
        | error e => exact hclose
        | ok rest => exact hclose
    · rw [if_neg ht]
      have hname := takeIdentifier_safe .nodeKind _ h
      generalize takeIdentifier .nodeKind (t :: ts) = result at hname ⊢
      cases result with
      | error e => exact hname
      | ok p => exact takePipedKinds_keeps (sortedSet [p.1]) hname

theorem takeOptions_keeps (reason : Option String) (h : Remains all ts) :
    Keeps all Prod.snd (takeOptions reason ts) := by
  fun_induction takeOptions reason ts with
  | case1 reason => exact h
  | case2 reason t hcomma => exact absurd rfl (h.take hcomma (by simp)).ne_nil
  | case3 reason t hcomma key ts hbrace => exact h.take hcomma (by simp)
  | case4 reason t hcomma key hbrace hkey =>
    have hoption := h.take hcomma (by simp)
    exact absurd rfl (hoption.take hkey (by simp)).ne_nil
  | case5 reason t hcomma key hbrace hkey mark hcolon =>
    have hmark := (h.take hcomma (by simp)).take hkey (by simp)
    exact absurd rfl (hmark.take hcolon (by simp)).ne_nil
  | case6 reason t hcomma key hbrace hkey mark hcolon value ts text htext ih =>
    have hmark := (h.take hcomma (by simp)).take hkey (by simp)
    have hvalue := hmark.take hcolon (by simp)
    exact ih (hvalue.take htext (by simp))
  | case7 reason t hcomma key hbrace hkey mark hcolon value ts htext =>
    have hmark := (h.take hcomma (by simp)).take hkey (by simp)
    exact unexpected_isIn (hmark.take hcolon (by simp)) _
  | case8 reason t hcomma key hbrace hkey mark ts hcolon =>
    have hoption := h.take hcomma (by simp)
    exact unexpected_isIn (hoption.take hkey (by simp)) _
  | case9 reason t hcomma key ts hbrace hkey => exact unexpected_isIn (h.take hcomma (by simp)) _
  | case10 reason t ts hcomma => exact h

theorem takeMatcher_safe : Safe all takeMatcher := by
  intro ts h
  unfold takeMatcher
  refine (expect_keeps (by simp) _ h).bind fun ts h => ?_
  refine (takeNodeKinds_safe ts h).bind fun ⟨kinds, ts⟩ h => ?_
  refine (expect_keeps (by simp) _ h).bind fun ts h => ?_
  refine (takePattern_safe.oneOrList _ ts h).bind fun ⟨specs, ts⟩ h => ?_
  refine (takeOptions_keeps none h).bind fun ⟨reason, ts⟩ h => ?_
  exact (expect_keeps (by simp) _ h).bind fun ts h => h

theorem takeBareMatcher_safe : Safe all takeBareMatcher := fun ts h => (takeMatcher_safe ts h).bind fun _ h => h

/-! ## Expressions -/

theorem takeTaintField_safe (fields : TaintFields) : Safe all (takeTaintField fields) := by
  intro ts h
  cases ts with
  | nil => exact absurd rfl h.ne_nil
  | cons t ts =>
    rw [takeTaintField]
    cases hkind : t.kind with
    | keyword word =>
      cases word with
      | source =>
        refine (expect_keeps (by simp) _ (h.take hkind (by simp))).bind fun ts hts => ?_
        cases fields.source.isSome with
        | true => exact ⟨h.mem, by simp⟩
        | false => exact (takeBareMatcher_safe ts hts).bind fun _ hrest => hrest
      | sink =>
        refine (expect_keeps (by simp) _ (h.take hkind (by simp))).bind fun ts hts => ?_
        cases fields.sink.isSome with
        | true => exact ⟨h.mem, by simp⟩
        | false => exact (takeBareMatcher_safe ts hts).bind fun _ hrest => hrest
      | sanitizer =>
        refine (expect_keeps (by simp) _ (h.take hkind (by simp))).bind fun ts hts => ?_
        exact (takeBareMatcher_safe.oneOrList _ ts hts).bind fun _ hrest => hrest
      | _ => exact unexpected_isIn h _
    | _ => exact unexpected_isIn h _

theorem takeTaint_safe (ht : t ∈ all) : Safe all (takeTaint t) := by
  intro ts h
  unfold takeTaint
  refine (expect_keeps (by simp) _ h).bind fun ts h => ?_
  refine (separated_keeps takeTaintField_safe _ h).bind fun ⟨fields, ts⟩ h => ?_
  refine (expect_keeps (by simp) _ h).bind fun ts h => ?_
  cases fields.source with
  | none => exact ⟨ht, by simp⟩
  | some source =>
    cases fields.sink with
    | none => exact ⟨ht, by simp⟩
    | some sink => exact h

theorem takeLogical_safe {operand : Step Expr} (hoperand : Safe all operand) (op : LogicalOp) (ht : t ∈ all) :
    Safe all (takeLogical op t operand) := by
  intro ts h
  unfold takeLogical
  refine (expect_keeps (by simp) _ h).bind fun ts h => ?_
  refine (separated_keeps hoperand.collecting _ h).bind fun ⟨operands, ts⟩ h => ?_
  refine (expect_keeps (by simp) _ h).bind fun ts h => ?_
  dsimp only
  cases operands.isEmpty with
  | true => exact ⟨ht, by simp⟩
  | false => exact h

theorem takeExpression_safe (levels : Nat) : Safe all (takeExpression levels) := by
  induction levels using Nat.strongRecOn with
  | ind levels ih =>
    intro ts h
    cases ts with
    | nil => exact absurd rfl h.ne_nil
    | cons t ts =>
      rw [takeExpression.eq_def]
      dsimp only
      cases hkind : t.kind with
      | keyword word =>
        have htail : Remains all ts := h.take hkind (by simp)
        cases word with
        | taint => exact takeTaint_safe h.mem ts htail
        | source | sink | sanitizer => exact unexpected_isIn h _
        | and | or | not =>
          cases levels with
          | zero => exact ⟨h.mem, by simp⟩
          | succ levels => exact takeLogical_safe (ih levels (Nat.lt_succ_self levels)) _ h.mem ts htail
      | leftBrace =>
        have hmatcher := takeMatcher_safe _ h
        dsimp only
        generalize takeMatcher (t :: ts) = result at hmatcher ⊢
        cases result with
        | error e => exact hmatcher
        | ok p => exact hmatcher
      | _ => exact unexpected_isIn h _

/-! ## Queries -/

/-- A fault of a stream that ends with an end marker is at one of its tokens. -/
theorem takeQuery_fault {fault : Fault} (h : Remains ts ts) (hfault : takeQuery ts = .error fault) : fault.IsIn ts := by
  have hstep := takeExpression_safe maxNesting ts h
  unfold takeQuery at hfault
  split at hfault
  · rename_i e he
    cases hfault
    rwa [he] at hstep
  · rename_i e hok
    rw [hok] at hstep
    exact absurd rfl (Remains.ne_nil hstep)
  · rename_i e t rest hok
    rw [hok] at hstep
    split at hfault
    · cases hfault
    · cases hfault
      exact unexpected_isIn hstep _

theorem remains_tokenize (source : String) : Remains (tokenize source) (tokenize source) := by
  obtain ⟨front, htokens, -⟩ := (tokensFrom_tokensAt .start source.toList).eof_last
  refine ⟨List.suffix_rfl, ⟨.eof, Position.start.advance source.toList⟩, ?_, rfl⟩
  rw [tokenize, htokens, List.getLast?_concat]

theorem parseQuery_error {source : String} {e : SyntaxError} (h : parseQuery source = .error e) :
    (∃ t ∈ tokenize source, e.position = t.position) ∧ e.cause ≠ .unexpectedEnd := by
  unfold parseQuery parse at h
  split at h
  · rename_i fault hfault
    have hin := takeQuery_fault (remains_tokenize source) hfault
    cases h
    cases fault with
    | atToken t cause => exact ⟨⟨t, hin.1, rfl⟩, hin.2⟩
    | endOfTokens => exact absurd hin id
  · cases h

/-! ## Wording -/

/-- The wording of the fault that a stream has ended. -/
def endMessage : String := SyntaxCause.unexpectedEnd.message

theorem append_ne_endMessage {lead : String} (h : ¬lead.toList <+: endMessage.toList) (rest : String) :
    lead ++ rest ≠ endMessage := by
  intro heq
  refine h ⟨rest.toList, ?_⟩
  rw [← String.toList_append, heq]

theorem append_not_leading {lead : String} (h : ¬lead.toList <+: endMessage.toList) (rest : String) :
    ¬(lead ++ rest).toList <+: endMessage.toList := by
  rw [String.toList_append]
  exact fun hprefix => h ((List.prefix_append _ _).trans hprefix)

theorem describe_not_leading (expectation : Expectation) : ¬expectation.describe.toList <+: endMessage.toList := by
  have hfirst : expectation.describe.toList.head? = some 'e' := by
    cases expectation with
    | token kind context =>
      unfold Expectation.describe
      simp only [String.toList_append, List.head?_append]
      rfl
    | endOfQuery | expression | taintField | reasonText | reasonOption | nodeKind | nodeKindAfterPipe | pattern =>
      decide +kernel
  rintro ⟨rest, hrest⟩
  have hhead := congrArg List.head? hrest
  rw [List.head?_append, hfirst] at hhead
  cases hhead

/-- No other cause is worded like the end of the stream. -/
theorem message_ne_endMessage {cause : SyntaxCause} (h : cause ≠ .unexpectedEnd) : cause.message ≠ endMessage := by
  cases cause with
  | unexpected expectation found =>
    have hdescribe := describe_not_leading expectation
    show SyntaxCause.unexpectedMessage expectation found ≠ endMessage
    unfold SyntaxCause.unexpectedMessage
    split
    · split
      · exact append_ne_endMessage (append_not_leading (by decide) _) _
      · exact append_ne_endMessage (append_not_leading (by decide) _) _
      · exact append_ne_endMessage (append_not_leading (by decide) _) _
      · exact append_ne_endMessage (append_not_leading hdescribe _) _
    · exact append_ne_endMessage (append_not_leading hdescribe _) _
  | duplicateSource | duplicateSink | missingSource | missingSink | tooDeep => decide +kernel
  | noOperand op =>
    have hname : ¬op.name.toList <+: endMessage.toList := by cases op <;> decide
    exact append_ne_endMessage hname _
  | unsupportedFlag flag => exact append_ne_endMessage (append_not_leading (by decide) _) _
  | unexpectedEnd => exact absurd rfl h

/-- **Positions are exact.** The tokens of a text end with its only end marker, which stands after the last byte;
every token starts after the one before it, at a character of the text where it is spelled, and its line and column
count the line feeds before it and the characters after the last of them. A syntax error has the position of one of
the tokens, and is never that the tokens have ended. -/
theorem positions_exact (source : String) :
    (∃ front last, tokenize source = front ++ [last] ∧ last.kind = .eof ∧
      last.position.offset = source.utf8ByteSize ∧ ∀ t ∈ front, t.kind ≠ .eof) ∧
    ((tokenize source).Pairwise fun t u => t.position.offset < u.position.offset) ∧
    (∀ t ∈ tokenize source, ∃ before after, source.toList = before ++ after ∧
      t.position.IsEndOf before ∧ t.kind.IsAtStartOf after) ∧
    ∀ e, parseQuery source = .error e →
      (∃ t ∈ tokenize source, e.position = t.position) ∧ e.cause.message ≠ "unexpected end of query" := by
  have hcut := tokensFrom_tokensAt .start source.toList
  refine ⟨?_, hcut.increasing, fun t ht => ?_, fun e he => ?_⟩
  · obtain ⟨front, htokens, hfront⟩ := hcut.eof_last
    refine ⟨front, _, htokens, rfl, ?_, hfront⟩
    rw [Position.offset_advance, Text.byteLength_toList]
    exact Nat.zero_add _
  · obtain ⟨before, after, hsource, hposition, hstart⟩ := hcut.located t ht
    refine ⟨before, after, hsource, ?_, hstart⟩
    rw [hposition]
    exact Position.isEndOf_start.advance before
  · obtain ⟨htoken, hcause⟩ := parseQuery_error he
    exact ⟨htoken, message_ne_endMessage hcause⟩

/-- A string that is never closed, on the second line and after a character of two bytes. -/
theorem positions_exact_unclosed :
    ∃ e, parseQuery "\x7b\n ü:'é" = .error e ∧ e.position = ⟨6, 2, 4⟩ ∧
      ∃ t ∈ tokenize "\x7b\n ü:'é", e.position = t.position := by
  have hread : (match parseQuery "\x7b\n ü:'é" with
      | .error e => decide (e.position = ⟨6, 2, 4⟩)
      | .ok _ => false) = true := by decide +kernel
  cases he : parseQuery "\x7b\n ü:'é" with
  | error e =>
    rw [he] at hread
    exact ⟨e, rfl, of_decide_eq_true hread, ((positions_exact _).2.2.2 e he).1⟩
  | ok q =>
    rw [he] at hread
    cases hread

end SourceAudit.Query
