import SourceAudit.Proofs.Query.Steps
import SourceAudit.Proofs.SortedMap

/-!
# The parser of node matchers

* `takePattern_reads`, `takePatterns_reads` : the patterns of a matcher;
* `takePipedKinds_ok_iff`, `takeNodeKinds_ok_iff` : its kinds, as a set;
* `takeOptions_ok_iff` : its reasons, of which the last one holds;
* `takeMatcher_reads`, `takeBareMatcher_reads`, `takeSanitizers_reads` : whole matchers and lists of them.
-/

namespace SourceAudit.Query

open Grammar

variable {α : Type}

/-! ## Patterns -/

theorem takeIdentifier_reads (expectation : Expectation) : Reads (takeIdentifier expectation) Identifier := by
  refine reads_of_token rfl (fun w a h => ?_) (fun t ts name rest => ?_)
  · cases h
    exact ⟨_, rfl⟩
  · rw [takeIdentifier]
    constructor
    · intro h
      split at h
      · rename_i n hk
        cases h
        exact ⟨rfl, hk ▸ .mk name⟩
      · cases h
    · rintro ⟨rfl, hx⟩
      generalize hw : [t.kind] = w at hx
      cases hx
      rw [List.singleton_inj.mp hw]

theorem flags_ok_iff (flags : List Char) :
    flags.find? (· ≠ 'i') = none ↔ (∀ flag ∈ flags, flag = 'i') := by
  rw [List.find?_eq_none]
  simp

/-- Where `i` is the only flag, there is no flag exactly if there is no `i`. -/
theorem isEmpty_of_flags {flags : List Char} (h : ∀ flag ∈ flags, flag = 'i') :
    flags.isEmpty = decide ('i' ∉ flags) := by
  cases flags with
  | nil => rfl
  | cons c cs =>
    rw [h c List.mem_cons_self]
    simp

theorem takePattern_reads : Reads takePattern Pattern := by
  refine reads_of_token rfl (fun w a h => ?_) (fun t ts p rest => ?_)
  · cases h <;> exact ⟨_, rfl⟩
  · rw [takePattern]
    constructor
    · intro h
      split at h
      · rename_i value hk
        cases h
        exact ⟨rfl, hk ▸ .string value⟩
      · rename_i name hk
        cases h
        exact ⟨rfl, hk ▸ .identifier name⟩
      · rename_i value flags hk
        split at h
        · cases h
        · rename_i hflags
          cases h
          have hall := (flags_ok_iff _).mp hflags
          refine ⟨rfl, ?_⟩
          rw [hk, isEmpty_of_flags hall]
          exact .regex value flags hall
      · cases h
    · rintro ⟨rfl, hx⟩
      generalize hw : [t.kind] = w at hx
      cases hx with
      | string value => rw [List.singleton_inj.mp hw]; rfl
      | identifier name => rw [List.singleton_inj.mp hw]; rfl
      | regex value flags hflags =>
        rw [List.singleton_inj.mp hw]
        simp only [(flags_ok_iff _).mpr hflags, isEmpty_of_flags hflags]

theorem pattern_opens {close : TokenKind} (hclose : close = .leftBracket ∨ close = .rightBracket) :
    Opens Pattern close := by
  intro w p h
  rcases hclose with rfl | rfl <;> cases h <;> exact ⟨_, _, rfl, nofun⟩

theorem takePatterns_reads : Reads takePatterns Patterns :=
  takePattern_reads.oneOrList (pattern_opens (Or.inl rfl)) (pattern_opens (Or.inr rfl)) _

theorem identifier_opens : Opens Identifier .rightBracket := by
  intro w name h
  cases h
  exact ⟨_, _, rfl, nofun⟩

theorem piped_opens : Opens Piped .leftBracket := by
  intro w names h
  cases h <;> exact ⟨_, _, rfl, nofun⟩

theorem takePipedKinds_ok_iff (first : String) (acc kinds : StringSet) (ts rest : List Token) (c : Token)
    (hc : c.kind ≠ .pipe) :
    takePipedKinds acc ts = .ok (kinds, c :: rest) ↔
      ∃ used names, ts = used ++ c :: rest ∧ Piped (.identifier first :: used.map Token.kind) (first :: names) ∧
        kinds = names.foldl .insert acc := by
  constructor
  · intro h
    fun_induction takePipedKinds acc ts generalizing first with
    | case1 => cases h
    | case2 => cases h
    | case3 acc t ht u us name hu ih =>
      obtain ⟨used, names, rfl, hp, rfl⟩ := ih name h
      refine ⟨t :: u :: used, name :: names, rfl, ?_, rfl⟩
      rw [List.map_cons, List.map_cons, ht, hu]
      exact .more first hp
    | case4 => cases h
    | case5 acc t ts ht =>
      cases h
      exact ⟨[], [], rfl, .one first, rfl⟩
  · rintro ⟨used, names, rfl, hp, rfl⟩
    induction names generalizing first acc used with
    | nil =>
      generalize hw : used.map Token.kind = w at hp
      cases hp with
      | one =>
        rw [List.map_eq_nil_iff.mp hw, List.nil_append, takePipedKinds.eq_def, List.foldl_nil]
        exact if_neg hc
      | more _ hp => cases hp
    | cons name names ih =>
      generalize hw : used.map Token.kind = w at hp
      cases hp with
      | more _ hp =>
        obtain ⟨t, us, rfl, ht, rfl⟩ := List.map_eq_cons_iff.mp hw
        have hus : ∃ u us', us = u :: us' ∧ u.kind = .identifier name := by
          generalize hv : us.map Token.kind = v at hp
          cases hp <;>
          · obtain ⟨u, us', rfl, hu, -⟩ := List.map_eq_cons_iff.mp hv
            exact ⟨u, us', rfl, hu⟩
        obtain ⟨u, us, rfl, hu⟩ := hus
        rw [List.map_cons, hu] at hp
        rw [List.cons_append, List.cons_append, takePipedKinds.eq_def]
        simp only [ht, hu, if_true]
        exact ih name (acc.insert name) us hp

theorem takeListedKind_extends :
    Extends takeListedKind Identifier (fun kinds name => some (kinds.insert name)) := by
  intro acc ts acc' rest
  rw [takeListedKind]
  constructor
  · intro h
    split at h
    · cases h
    · rename_i name mid hname
      cases h
      obtain ⟨used, hts, hx⟩ := (takeIdentifier_reads _ _ _ _).mp hname
      exact ⟨used, name, hts, hx, rfl⟩
  · rintro ⟨used, name, hts, hx, hact⟩
    rw [(takeIdentifier_reads _ _ _ _).mpr ⟨used, hts, hx⟩]
    cases hact
    rfl

theorem foldlM_insert (names : List String) (acc acc' : StringSet) :
    names.foldlM (fun acc name => some (acc.insert name)) acc = some acc' ↔ acc' = names.foldl .insert acc := by
  induction names generalizing acc with
  | nil => simp [eq_comm]
  | cons name names ih => exact ih (acc.insert name)

theorem takeNodeKinds_ok_iff (kinds : StringSet) (ts rest : List Token) (c : Token) (hc : c.kind = .colon) :
    takeNodeKinds ts = .ok (kinds, c :: rest) ↔
      ∃ names, (∃ used, ts = used ++ c :: rest ∧ KindNames (used.map Token.kind) names) ∧ kinds = sortedSet names := by
  cases ts with
  | nil =>
    refine iff_of_false nofun ?_
    rintro ⟨names, h, -⟩
    exact not_shortOrList_nil piped_opens _ _ h
  | cons t ts =>
    simp only [KindNames, shortOrList_cons_iff piped_opens]
    rw [takeNodeKinds]
    split_ifs with ht
    · have hlist := separated_ok_iff takeListedKind_extends identifier_opens (by decide) .empty kinds ts (c :: rest)
        "to close node kind list"
      simp only [foldlM_insert] at hlist
      constructor
      · intro h
        split at h
        · cases h
        · rename_i mid hsep
          split at h
          · cases h
          · rename_i hexp
            cases h
            obtain ⟨used, names, w, hts, hw, hx, hkinds⟩ := hlist.mp ⟨mid, hsep, hexp⟩
            exact ⟨names, ⟨used, w, hts, hw, hx⟩, hkinds⟩
      · rintro ⟨names, ⟨used, w, hts, hw, hx⟩, hkinds⟩
        obtain ⟨mid, hsep, hexp⟩ := hlist.mpr ⟨used, names, w, hts, hw, hx, hkinds⟩
        simp only [hsep, hexp]
    · have hpiped := fun first rest' => takePipedKinds_ok_iff first (sortedSet [first]) kinds rest' rest c
        (by rw [hc]; nofun)
      constructor
      · intro h
        split at h
        · cases h
        · rename_i name mid hname
          obtain ⟨head, hts, hhead⟩ := (takeIdentifier_reads _ _ _ _).mp hname
          obtain ⟨used, names, rfl, hp, hkinds⟩ := (hpiped name mid).mp h
          generalize hw : head.map Token.kind = w at hhead
          cases hhead
          refine ⟨name :: names, ⟨head ++ used, by rw [hts, List.append_assoc], ?_⟩, hkinds⟩
          rw [List.map_append, hw]
          exact hp
      · rintro ⟨names, ⟨used, hts, hp⟩, rfl⟩
        have hfirst : ∃ name more us, names = name :: more ∧ used = t :: us ∧ t.kind = .identifier name := by
          generalize hw : used.map Token.kind = w at hp
          cases hp <;>
          · obtain ⟨u, us, rfl, hu, -⟩ := List.map_eq_cons_iff.mp hw
            cases hts
            exact ⟨_, _, us, rfl, rfl, hu⟩
        obtain ⟨name, more, us, rfl, rfl, hname⟩ := hfirst
        cases hts
        rw [takeIdentifier.eq_def]
        simp only [hname]
        rw [List.map_cons, hname] at hp
        exact (hpiped name _).mpr ⟨us, more, rfl, hp, rfl⟩

theorem getLast?_or_cons (text : α) (texts : List α) (reason : Option α) :
    (text :: texts).getLast?.or reason = texts.getLast?.or (some text) := by
  cases texts with
  | nil => rfl
  | cons b bs => simp [List.getLast?_cons]

theorem takeOptions_ok_iff (reason result : Option String) (ts rest : List Token) (c : Token)
    (hc : c.kind = .rightBrace) :
    takeOptions reason ts = .ok (result, c :: rest) ↔
      ∃ used r comma texts, ts = used ++ c :: rest ∧ used.map Token.kind = r ++ comma ∧ Reasons r texts ∧
        (comma = [] ∨ comma = [.comma]) ∧ result = texts.getLast?.or reason := by
  constructor
  · intro h
    fun_induction takeOptions reason ts with
    | case1 => cases h
    | case2 => cases h
    | case3 reason t ht key ts hkey =>
      cases h
      exact ⟨[t], [], [.comma], [], rfl, by rw [List.map_singleton, ht]; rfl, .none, Or.inr rfl, rfl⟩
    | case4 => cases h
    | case5 => cases h
    | case6 reason t ht key _ hkey mark hmark value ts text hvalue ih =>
      obtain ⟨used, r, comma, texts, rfl, hw, hr, hcomma, rfl⟩ := ih h
      refine ⟨t :: key :: mark :: value :: used, _, comma, text :: texts, rfl, ?_, .more text hr, hcomma, ?_⟩
      · simp only [List.map_cons, ht, hkey, hmark, hvalue, hw, List.cons_append]
      · rw [getLast?_or_cons]
    | case7 => cases h
    | case8 => cases h
    | case9 => cases h
    | case10 reason t ts ht =>
      cases h
      exact ⟨[], [], [], [], rfl, rfl, .none, Or.inl rfl, rfl⟩
  · rintro ⟨used, r, comma, texts, rfl, hw, hr, hcomma, rfl⟩
    induction hr generalizing reason used with
    | none =>
      rcases hcomma with rfl | rfl
      · rw [List.map_eq_nil_iff.mp hw, List.nil_append, takeOptions.eq_def]
        simp [hc]
      · obtain ⟨t, rfl, ht⟩ := List.map_eq_singleton_iff.mp hw
        rw [List.singleton_append, takeOptions.eq_def]
        simp [ht, hc]
    | more text _ ih =>
      obtain ⟨t, us, rfl, ht, hus⟩ := List.map_eq_cons_iff.mp hw
      obtain ⟨key, us, rfl, hkey, hus⟩ := List.map_eq_cons_iff.mp hus
      obtain ⟨mark, us, rfl, hmark, hus⟩ := List.map_eq_cons_iff.mp hus
      obtain ⟨value, us, rfl, hvalue, hus⟩ := List.map_eq_cons_iff.mp hus
      rw [getLast?_or_cons, ← ih (some text) us hus]
      simp only [List.cons_append]
      rw [takeOptions.eq_def]
      simp [ht, hkey, hmark, hvalue]

theorem takeMatcher_reads : Reads takeMatcher Matcher := by
  rintro ts ⟨⟨kinds, specs⟩, reason⟩ rest
  simp only [takeMatcher, bind_ok_iff, Prod.exists, expect_ok_iff, pure, Except.pure, Except.ok.injEq, Prod.mk.injEq,
    NodeMatcher.mk.injEq]
  constructor
  · rintro ⟨_, ⟨left, rfl, hleft⟩, kinds', _, hkinds, ts₂, ⟨colon, rfl, hcolon⟩, specs', ts₃, hspecs, reason',
      _, hopts, _, ⟨right, rfl, hright⟩, ⟨⟨rfl, rfl⟩, rfl⟩, rfl⟩
    obtain ⟨names, ⟨k, rfl, hk⟩, rfl⟩ := (takeNodeKinds_ok_iff _ _ _ _ hcolon).mp hkinds
    obtain ⟨p, rfl, hp⟩ := (takePatterns_reads _ _ _).mp hspecs
    obtain ⟨o, r, comma, texts, rfl, ho, hr, hcomma, rfl⟩ := (takeOptions_ok_iff _ _ _ _ _ hright).mp hopts
    refine ⟨left :: (k ++ colon :: (p ++ (o ++ [right]))), by simp, ?_⟩
    simp only [List.map_cons, List.map_append, List.map_nil, hleft, hcolon, hright, ho, List.append_assoc,
      Option.or_none]
    exact .mk hk (mem_sortedSet names) hp hr hcomma
  · rintro ⟨used, rfl, hx⟩
    generalize hw : used.map Token.kind = w at hx
    cases hx with
    | @mk _ _ r comma names texts _ _ hk hset hp hr hcomma =>
      rw [← List.append_assoc r] at hw
      obtain ⟨left, us, rfl, hleft, h₁⟩ := List.map_eq_cons_iff.mp hw
      obtain ⟨k, us, rfl, rfl, h₂⟩ := List.map_eq_append_iff.mp h₁
      obtain ⟨colon, us, rfl, hcolon, h₃⟩ := List.map_eq_cons_iff.mp h₂
      obtain ⟨p, us, rfl, rfl, h₄⟩ := List.map_eq_append_iff.mp h₃
      obtain ⟨o, us, rfl, ho, h₅⟩ := List.map_eq_append_iff.mp h₄
      obtain ⟨right, rfl, hright⟩ := List.map_eq_singleton_iff.mp h₅
      refine ⟨k ++ colon :: (p ++ (o ++ right :: rest)), ⟨left, by simp, hleft⟩,
        kinds, colon :: (p ++ (o ++ right :: rest)), ?_, p ++ (o ++ right :: rest), ⟨colon, rfl, hcolon⟩,
        specs, o ++ right :: rest, ?_, texts.getLast?, right :: rest, ?_, rest, ⟨right, rfl, hright⟩,
        ⟨⟨rfl, rfl⟩, rfl⟩, rfl⟩
      · exact (takeNodeKinds_ok_iff _ _ _ _ hcolon).mpr ⟨names, ⟨k, rfl, hk⟩, eq_sortedSet hset⟩
      · exact (takePatterns_reads _ _ _).mpr ⟨p, rfl, hp⟩
      · exact (takeOptions_ok_iff _ _ _ _ _ hright).mpr ⟨o, r, comma, texts, rfl, ho, hr,
          hcomma, by rw [Option.or_none]⟩

theorem takeBareMatcher_reads : Reads takeBareMatcher BareMatcher := by
  intro ts m rest
  simp only [takeBareMatcher, bind_ok_iff, Prod.exists, pure, Except.pure, Except.ok.injEq, Prod.mk.injEq]
  constructor
  · rintro ⟨_, reason, _, h, rfl, rfl⟩
    obtain ⟨used, hts, hx⟩ := (takeMatcher_reads _ _ _).mp h
    exact ⟨used, hts, reason, hx⟩
  · rintro ⟨used, hts, reason, hx⟩
    exact ⟨m, reason, rest, (takeMatcher_reads _ _ _).mpr ⟨used, hts, hx⟩, rfl, rfl⟩

theorem bareMatcher_opens {close : TokenKind} (hclose : .leftBrace ≠ close) : Opens BareMatcher close := by
  rintro w m ⟨reason, h⟩
  obtain ⟨v, rfl⟩ := h.first
  exact ⟨_, v, rfl, hclose⟩

theorem takeSanitizers_reads :
    Reads (oneOrList takeBareMatcher "to close sanitizer list") (ShortOrList (Single BareMatcher) BareMatcher) :=
  takeBareMatcher_reads.oneOrList (bareMatcher_opens (by decide)) (bareMatcher_opens (by decide)) _

end SourceAudit.Query
