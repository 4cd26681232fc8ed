import SourceAudit.Proofs.Query.Lexemes
import SourceAudit.Proofs.Text.Boundary

/-!
# Positions of tokens

* `Position.IsEndOf p cs` : the position `p` is where the text `cs` ends, counted from the start of a query;
* `TokenKind.IsAtStartOf kind cs` : the text `cs` starts with the spelling of a token;
* `TokensAt p cs ts` : the text `cs`, which starts at `p`, is cut into the tokens `ts` and what stands between them;
* `tokensFrom_tokensAt` : the tokens of a text cut it in this way;
* `TokensAt.eof_last`, `TokensAt.located`, `TokensAt.increasing` : what follows for every such cut.
-/

namespace SourceAudit.Query

open Text (byteLength)

variable {p : Position} {c : Char} {cs : List Char} {kind : TokenKind} {ts : List Token}

/-! ## Positions and texts -/

/-- The position is where a text ends: it counts the bytes of the text, its line feeds, and the characters after the
last line feed. -/
structure Position.IsEndOf (p : Position) (cs : List Char) : Prop where
  offset : p.offset = byteLength cs
  line : p.line = 1 + cs.count '\n'
  column : p.column = 1 + (cs.reverse.takeWhile (· ≠ '\n')).length

namespace Position

@[simp] theorem advance_nil (p : Position) : p.advance [] = p := rfl

@[simp] theorem advance_cons (p : Position) (c : Char) (cs : List Char) :
    p.advance (c :: cs) = (p.step c).advance cs := rfl

theorem advance_append (p : Position) (a b : List Char) : p.advance (a ++ b) = (p.advance a).advance b := by
  unfold advance
  rw [List.foldl_append]

@[simp] theorem offset_step (p : Position) (c : Char) : (p.step c).offset = p.offset + c.utf8Size := by
  unfold step
  split <;> rfl

@[simp] theorem offset_advance (p : Position) (cs : List Char) : (p.advance cs).offset = p.offset + byteLength cs := by
  induction cs generalizing p with
  | nil => simp
  | cons c cs ih =>
    rw [advance_cons, ih, offset_step, Text.byteLength_cons]
    omega

theorem isEndOf_start : start.IsEndOf [] := ⟨rfl, rfl, rfl⟩

/-- One character further. A line feed starts a new line, so that no character of the text counts for the column. -/
theorem IsEndOf.step (h : p.IsEndOf cs) (c : Char) : (p.step c).IsEndOf (cs ++ [c]) := by
  obtain ⟨hoffset, hline, hcolumn⟩ := h
  unfold Position.step
  by_cases hc : c = '\n'
  · subst hc
    rw [if_pos rfl]
    constructor
    · simp [hoffset]
    · simp only [hline, List.count_append, List.count_singleton_self]
      omega
    · simp
  · rw [if_neg hc]
    constructor
    · simp [hoffset]
    · have hcount : [c].count '\n' = 0 := List.count_eq_zero.mpr (by simpa using Ne.symm hc)
      simp only [hline, List.count_append, hcount]
      omega
    · simp only [hcolumn, List.reverse_append, List.reverse_cons, List.reverse_nil, List.nil_append,
        List.singleton_append]
      rw [List.takeWhile_cons_of_pos (by simpa using hc), List.length_cons]
      omega

theorem IsEndOf.advance {pre : List Char} (h : p.IsEndOf pre) (cs : List Char) :
    (p.advance cs).IsEndOf (pre ++ cs) := by
  induction cs generalizing p pre with
  | nil => simpa using h
  | cons c cs ih =>
    have hnext := ih (h.step c)
    rwa [List.append_assoc, List.singleton_append] at hnext

end Position

/-! ## Spellings -/

/-- The text starts with the spelling of a token. A keyword may be in any case, of a literal only what opens it
counts, and at the end marker no text is left. -/
def TokenKind.IsAtStartOf : TokenKind → List Char → Prop
  | .keyword k, cs => ∃ word, word <+: cs ∧ Text.asciiUpper word = k.name.toList
  | .string _, cs => cs.head? = some '\x22' ∨ cs.head? = some '\x27'
  | .regex _ _, cs => cs.head? = some '/'
  | .unknown text, cs => text.toList ≠ [] ∧ text.toList <+: cs
  | .eof, cs => cs = []
  | kind, cs => kind.spell <+: cs

theorem isAtStartOf_punctuation (h : punctuation? c = some kind) (cs : List Char) : kind.IsAtStartOf (c :: cs) := by
  unfold punctuation? at h
  split at h
  case h_10 => cases h
  all_goals
    cases h
    exact ⟨cs, rfl⟩

theorem isAtStartOf_wordKind (word rest : List Char) : (wordKind word).IsAtStartOf (word ++ rest) := by
  unfold wordKind
  split
  · rename_i k hk
    have hname : k.name = String.ofList (Text.asciiUpper word) := by simpa using List.find?_some hk
    refine ⟨word, List.prefix_append word rest, ?_⟩
    rw [hname, String.toList_ofList]
  · refine ⟨rest, ?_⟩
    rw [TokenKind.spell, String.toList_ofList]

theorem lexeme_isAtStartOf (c : Char) (cs : List Char) : (lexeme c cs).1.IsAtStartOf (c :: cs) := by
  unfold lexeme
  split
  · rename_i hkind
    exact isAtStartOf_punctuation hkind cs
  · split
    · rename_i hquote
      split
      · simpa [TokenKind.IsAtStartOf] using hquote
      · exact ⟨by simp, [], by rw [String.toList_ofList, List.append_nil]⟩
    · split
      · rename_i hslash
        split
        · rw [hslash]
          rfl
        · -- the end of a literal that is never closed may be trimmed, but not its slash
          have hlong : byteLength [] + c.utf8Size ≤ byteLength (Text.trimEnd (c :: cs)) :=
            Text.byteLength_le_trimEnd rfl (by rw [hslash]; decide)
          have hne : Text.trimEnd (c :: cs) ≠ [] := by
            intro hnil
            have hpos := c.utf8Size_pos
            rw [hnil, Text.byteLength_nil] at hlong
            omega
          refine ⟨by rwa [String.toList_ofList], ?_⟩
          rw [String.toList_ofList]
          exact Text.dropEndWhile_prefix _ _
      · split
        · have hsplit := List.takeWhile_append_dropWhile (p := continuesIdentifier) (l := cs)
          have hword := isAtStartOf_wordKind (c :: cs.takeWhile continuesIdentifier) (cs.dropWhile continuesIdentifier)
          rwa [List.cons_append, hsplit] at hword
        · refine ⟨by simp, cs, ?_⟩
          rw [String.toList_ofList, List.singleton_append]

theorem lexeme_ne_eof (c : Char) (cs : List Char) : (lexeme c cs).1 ≠ .eof := by
  intro heof
  rcases lexeme_spellable c cs with ⟨text, htext⟩ | hspell
  · rw [heof] at htext
    cases htext
  · rw [heof] at hspell
    exact hspell

/-! ## Cutting a text -/

/-- A text at a position is cut into tokens, each of them spelled where it starts, and into what stands between them;
the end marker comes last. -/
inductive TokensAt : Position → List Char → List Token → Prop where
  | done (p : Position) : TokensAt p [] [⟨.eof, p⟩]
  | skip {p : Position} {part rest : List Char} {ts : List Token} :
      part ≠ [] → TokensAt (p.advance part) rest ts → TokensAt p (part ++ rest) ts
  | token {p : Position} {kind : TokenKind} {part rest : List Char} {ts : List Token} :
      part ≠ [] → kind ≠ .eof → kind.IsAtStartOf (part ++ rest) → TokensAt (p.advance part) rest ts →
        TokensAt p (part ++ rest) (⟨kind, p⟩ :: ts)

theorem tokensFrom_tokensAt (p : Position) (cs : List Char) : TokensAt p cs (tokensFrom p cs) := by
  fun_induction tokensFrom p cs with
  | case1 p => exact .done p
  | case2 p c cs hblank ih => exact .skip (List.cons_ne_nil c []) ih
  | case3 p cs hblank ih =>
    have hskip := TokensAt.skip (by simp) ih
    rwa [List.cons_append, List.takeWhile_append_dropWhile] at hskip
  | case4 p c cs hblank hhash kind n hlex ih =>
    have hsplit : (c :: cs.take n) ++ cs.drop n = c :: cs := by rw [List.cons_append, List.take_append_drop]
    have hstart := lexeme_isAtStartOf c cs
    have hne := lexeme_ne_eof c cs
    rw [hlex] at hstart hne
    have htoken := TokensAt.token (by simp) hne (by rwa [hsplit]) ih
    rwa [hsplit] at htoken

namespace TokensAt

/-- There is one end marker; it is the last token and stands where the text ends. -/
theorem eof_last (h : TokensAt p cs ts) :
    ∃ front, ts = front ++ [⟨.eof, p.advance cs⟩] ∧ ∀ t ∈ front, t.kind ≠ .eof := by
  induction h with
  | done p => exact ⟨[], rfl, nofun⟩
  | skip _ _ ih =>
    rw [Position.advance_append]
    exact ih
  | token _ hkind _ _ ih =>
    obtain ⟨front, rfl, hfront⟩ := ih
    rw [Position.advance_append]
    exact ⟨_ :: front, rfl, List.forall_mem_cons.mpr ⟨hkind, hfront⟩⟩

/-- Every token stands at the end of some part of the text, and is spelled after it. -/
theorem located (h : TokensAt p cs ts) :
    ∀ t ∈ ts, ∃ a b, cs = a ++ b ∧ t.position = p.advance a ∧ t.kind.IsAtStartOf b := by
  induction h with
  | done p =>
    intro t ht
    rw [List.mem_singleton.mp ht]
    exact ⟨[], [], rfl, rfl, rfl⟩
  | @skip p part rest ts _ _ ih =>
    intro t ht
    obtain ⟨a, b, rfl, hposition, hstart⟩ := ih t ht
    refine ⟨part ++ a, b, by simp, ?_, hstart⟩
    rw [hposition, Position.advance_append]
  | @token p kind part rest ts _ _ hstart _ ih =>
    intro t ht
    rcases List.mem_cons.mp ht with rfl | ht
    · exact ⟨[], part ++ rest, rfl, rfl, hstart⟩
    · obtain ⟨a, b, rfl, hposition, hstart⟩ := ih t ht
      refine ⟨part ++ a, b, by simp, ?_, hstart⟩
      rw [hposition, Position.advance_append]

/-- No token starts before the text does. -/
theorem offset_le (h : TokensAt p cs ts) : ∀ t ∈ ts, p.offset ≤ t.position.offset := by
  intro t ht
  obtain ⟨a, b, -, hposition, -⟩ := h.located t ht
  rw [hposition, Position.offset_advance]
  omega

/-- Every token starts after the one before it. -/
theorem increasing (h : TokensAt p cs ts) : ts.Pairwise fun t u => t.position.offset < u.position.offset := by
  induction h with
  | done p => exact List.pairwise_singleton _ _
  | skip _ _ ih => exact ih
  | @token p kind part rest ts hpart _ _ hrest ih =>
    refine List.pairwise_cons.mpr ⟨fun u hu => ?_, ih⟩
    have hle := hrest.offset_le u hu
    have hpos := Text.byteLength_pos hpart
    rw [Position.offset_advance] at hle
    dsimp only
    omega

end TokensAt

end SourceAudit.Query
