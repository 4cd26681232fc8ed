import Mathlib.Data.List.Forall2
import SourceAudit.Json.Printer
import SourceAudit.Proofs.Json.Reader

/-!
# JSON is read back as it was written

* `Json.doc` : what a value says;
* `Lexes text ts` : the text has the tokens `ts`, whatever comes behind it;
* `Spelled c cs` : how a character is written in a string;
* `lexes_compact`, `lexes_prettyAt` : on one line and on several lines, a value has the tokens of what it says;
* `read?_compact`, `read?_pretty_feed` : so both are read back;
* `feed_not_mem_compact` : a value on one line holds no line end.
-/

namespace SourceAudit.Json

/-! ## Tokens of a text -/

/-- A word ends before the text. -/
def Ends (rest : List Char) : Prop := ∀ c, rest.head? = some c → isSpace c = true ∨ isMark c = true

/-- The text has these tokens, whatever comes behind it. -/
def Lexes (text : List Char) (ts : List Token) : Prop :=
  ∀ rest, Ends rest → tokens .between (text ++ rest) = ts ++ tokens .between rest

def isWordChar (c : Char) : Bool := !isSpace c && !isMark c && c != '\x22'

def Wordy (w : String) : Prop := w.toList.all isWordChar = true

instance (w : String) : Decidable (Wordy w) := inferInstanceAs (Decidable (_ = _))

/-- The same, and it is not empty. -/
structure IsWord (w : String) : Prop where
  ne_nil : w.toList ≠ []
  wordy : Wordy w

theorem tokens_spaces {blanks : List Char} (h : blanks.all isSpace = true) (rest : List Char) :
    tokens .between (blanks ++ rest) = tokens .between rest := by
  induction blanks with
  | nil => rfl
  | cons c blanks ih =>
    rw [List.all_cons, Bool.and_eq_true] at h
    rw [List.cons_append, tokens, if_pos h.1, ih h.2]

theorem tokens_mark {c : Char} (h : isMark c = true) (rest : List Char) :
    tokens .between (c :: rest) = .mark c :: tokens .between rest := by
  have hspace : isSpace c = false := by
    simp only [isMark, List.contains_eq_mem, List.mem_cons, List.not_mem_nil, or_false, decide_eq_true_eq] at h
    rcases h with rfl | rfl | rfl | rfl | rfl | rfl <;> decide
  rw [tokens, if_neg (by rw [hspace]; decide), if_pos h]

/-- A word goes on to the next mark or space. -/
theorem tokens_word (read : List Char) {w rest : List Char} (h : w.all isWordChar = true) (hrest : Ends rest) :
    tokens (.word read) (w ++ rest) = .word (String.ofList (read.reverse ++ w)) :: tokens .between rest := by
  induction w generalizing read with
  | nil =>
    rw [List.nil_append, List.append_nil]
    cases rest with
    | nil => rfl
    | cons c rest =>
      by_cases hspace : isSpace c = true
      · have hbetween : tokens .between (c :: rest) = tokens .between rest := by rw [tokens, if_pos hspace]
        rw [hbetween, tokens, if_pos hspace]
      · have hmark := (hrest c rfl).resolve_left hspace
        rw [tokens_mark hmark, tokens, if_neg hspace, if_pos hmark]
  | cons c w ih =>
    rw [List.all_cons, Bool.and_eq_true] at h
    obtain ⟨hc, hw⟩ := h
    simp only [isWordChar, Bool.and_eq_true, Bool.not_eq_true', bne_iff_ne] at hc
    rw [List.cons_append, tokens, if_neg (by simp [hc]), if_neg (by simp [hc]), ih (c :: read) hw]
    simp

theorem IsWord.lexes {w : String} (h : IsWord w) : Lexes w.toList [.word w] := by
  intro rest hrest
  obtain ⟨hne, hall⟩ := h
  cases hw : w.toList with
  | nil => exact absurd hw hne
  | cons c cs =>
    rw [Wordy, hw, List.all_cons, Bool.and_eq_true] at hall
    obtain ⟨hc, hcs⟩ := hall
    simp only [isWordChar, Bool.and_eq_true, Bool.not_eq_true', bne_iff_ne, ne_eq] at hc
    rw [List.cons_append, tokens, if_neg (by simp [hc]), if_neg (by simp [hc]), if_neg hc.2, tokens_word [c] hcs hrest]
    rw [show [c].reverse ++ cs = w.toList from hw.symm, String.ofList_toList]
    rfl

/-! ## Strings -/

theorem hexValue?_hexDigit : ∀ n < 16, Text.hexValue? (hexDigit n) = some n := by decide

theorem tokens_digit {c : Char} {d : Nat} (h : Text.hexValue? c = some d) (read rest : List Char) (more value : Nat) :
    tokens (.code read (more + 1) value) (c :: rest) = tokens (.code read more (16 * value + d)) rest := by
  simp only [tokens, h]

theorem tokens_last_digit {c : Char} {d : Nat} (h : Text.hexValue? c = some d) (read rest : List Char) (value : Nat) :
    tokens (.code read 0 value) (c :: rest) = tokens (.text (Char.ofNat (16 * value + d) :: read)) rest := by
  simp only [tokens, h]

theorem tokens_code {c : Char} (h : c.toNat < 32) (read rest : List Char) :
    tokens (.code read 3 0) ('0' :: '0' :: hexDigit (c.toNat / 16) :: hexDigit (c.toNat % 16) :: rest) =
      tokens (.text (c :: read)) rest := by
  have hzero : Text.hexValue? '0' = some 0 := hexValue?_hexDigit 0 (by decide)
  have hhigh := hexValue?_hexDigit (c.toNat / 16) (by omega)
  have hlow := hexValue?_hexDigit (c.toNat % 16) (by omega)
  have hvalue : 16 * (16 * (16 * (16 * 0 + 0) + 0) + c.toNat / 16) + c.toNat % 16 = c.toNat := by omega
  rw [tokens_digit hzero, tokens_digit hzero, tokens_digit hhigh, tokens_last_digit hlow, hvalue, Char.ofNat_toNat]

/-- How a character is written in a string: as itself, behind a backslash, or by its code. -/
inductive Spelled (c : Char) : List Char → Prop where
  | plain : c ≠ '\x22' → c ≠ '\\' → c ≠ '\n' → Spelled c [c]
  | short {d : Char} : d ≠ 'u' → escaped? d = some c → Spelled c ['\\', d]
  | code : c.toNat < 32 → Spelled c ['\\', 'u', '0', '0', hexDigit (c.toNat / 16), hexDigit (c.toNat % 16)]

theorem spelled_escapeChar (c : Char) : Spelled c (escapeChar c) := by
  have hcode {n : Nat} (h : c.toNat = n) : c = Char.ofNat n := by rw [← h, Char.ofNat_toNat]
  unfold escapeChar
  split
  next h => exact .short (by decide) (by rw [h]; rfl)
  next hquote =>
  split
  next h => exact .short (by decide) (by rw [h]; rfl)
  next hback =>
  split
  next h => exact .short (by decide) (by rw [h]; rfl)
  next hfeed =>
  split
  next h => exact .short (by decide) (by rw [h]; rfl)
  split
  next h => exact .short (by decide) (by rw [h]; rfl)
  split
  next h => exact .short (by decide) (by rw [hcode h]; rfl)
  split
  next h => exact .short (by decide) (by rw [hcode h]; rfl)
  split
  next h => exact .code h
  exact .plain hquote hback hfeed

theorem Spelled.lexes {c : Char} {cs : List Char} (h : Spelled c cs) (read rest : List Char) :
    tokens (.text read) (cs ++ rest) = tokens (.text (c :: read)) rest := by
  have hescape (cs : List Char) : tokens (.text read) ('\\' :: cs) = tokens (.escape read) cs := by
    rw [tokens, if_neg (by decide), if_pos rfl]
  cases h with
  | plain hquote hback _ => rw [List.singleton_append, tokens, if_neg hquote, if_neg hback]
  | short hne hd =>
    rw [List.cons_append, hescape, List.singleton_append, tokens, if_neg hne]
    simp only [hd]
  | code hcontrol =>
    rw [List.cons_append, hescape, List.cons_append, tokens, if_pos rfl]
    exact tokens_code hcontrol read rest

theorem lexes_quote (s : String) : Lexes (quote s).toList [.text s] := by
  intro rest _
  have hread (cs read : List Char) : tokens (.text read) (cs.flatMap escapeChar ++ '\x22' :: rest) =
      .text (String.ofList (read.reverse ++ cs)) :: tokens .between rest := by
    induction cs generalizing read with
    | nil =>
      rw [List.append_nil]
      rfl
    | cons c cs ih =>
      rw [List.flatMap_cons, List.append_assoc, (spelled_escapeChar c).lexes, ih, List.reverse_cons, ← List.append_cons]
  have hmark : "\"".toList = ['\x22'] := by decide
  have hquote : (quote s).toList ++ rest = '\x22' :: (s.toList.flatMap escapeChar ++ '\x22' :: rest) := by
    simp [quote, hmark]
  rw [hquote]
  show tokens (.text []) _ = _
  rw [hread, List.reverse_nil, List.nil_append, String.ofList_toList]
  rfl

/-! ## Lists -/

theorem ends_cons {c : Char} (h : isSpace c = true ∨ isMark c = true) (rest : List Char) : Ends (c :: rest) := by
  intro d hd
  cases hd
  exact h

theorem ends_append {blanks rest : List Char} (hblanks : blanks.all isSpace = true) (h : Ends rest) :
    Ends (blanks ++ rest) := by
  cases blanks with
  | nil => exact h
  | cons c blanks =>
    rw [List.all_cons, Bool.and_eq_true] at hblanks
    exact ends_cons (.inl hblanks.1) (blanks ++ rest)

theorem lexes_intercalate (blanks : List Char) (hblanks : blanks.all isSpace = true) {texts : List (List Char)}
    {pieces : List (List Token)} (h : List.Forall₂ Lexes texts pieces) :
    Lexes ((',' :: blanks).intercalate texts) (Doc.joined pieces) := by
  induction h with
  | nil => exact fun _ _ => rfl
  | @cons text piece texts pieces hfirst hothers ih =>
    cases hothers with
    | nil =>
      rw [List.intercalate_singleton, Doc.joined, List.intercalate_singleton]
      exact hfirst
    | cons hnext hothers =>
      intro rest hrest
      rw [Doc.joined, List.intercalate_cons_cons, List.intercalate_cons_cons, List.append_assoc, List.append_assoc,
        List.cons_append, hfirst _ (ends_cons (.inr (by decide)) _), tokens_mark (by decide), tokens_spaces hblanks,
        ih rest hrest]
      simp [Doc.joined]

theorem lexes_brackets {opening closing : Char} (hopening : isMark opening = true) (hclosing : isMark closing = true)
    (left right : List Char) (hleft : left.all isSpace = true) (hright : right.all isSpace = true) {inner : List Char}
    {ts : List Token} (h : Lexes inner ts) :
    Lexes (opening :: (left ++ (inner ++ (right ++ [closing])))) (.mark opening :: (ts ++ [.mark closing])) := by
  intro rest _
  have hends : Ends (right ++ closing :: rest) := ends_append hright (ends_cons (.inr hclosing) rest)
  simp only [List.cons_append, List.append_assoc, List.nil_append]
  rw [tokens_mark hopening, tokens_spaces hleft, h _ hends, tokens_spaces hright, tokens_mark hclosing]

/-! ## Words -/

theorem Wordy.append {a b : String} (ha : Wordy a) (hb : Wordy b) : Wordy (a ++ b) := by
  rw [Wordy, String.toList_append, List.all_append, ha, hb]
  rfl

theorem IsWord.append {a b : String} (ha : IsWord a) (hb : Wordy b) : IsWord (a ++ b) := by
  refine ⟨?_, Wordy.append ha.wordy hb⟩
  rw [String.toList_append]
  exact List.append_ne_nil_of_left_ne_nil ha.ne_nil _

theorem isWordChar_of_isDigit {c : Char} (h : c.isDigit = true) : isWordChar c = true := by
  have hcodes : ∀ n < 58, 48 ≤ n → isWordChar (Char.ofNat n) = true := by decide
  obtain ⟨hlow, hhigh⟩ := Char.isDigit_iff_toNat.mp h
  have := hcodes c.toNat (Nat.lt_succ_of_le hhigh) hlow
  rwa [Char.ofNat_toNat] at this

theorem isWord_nat (n : Nat) : IsWord (toString n) := by
  have hdigits : (toString n).toList = Nat.toDigits 10 n := by rw [Nat.toString_eq_repr, Nat.repr, String.toList_ofList]
  refine ⟨?_, ?_⟩
  · rw [hdigits]
    exact Nat.toDigits_ne_nil
  · rw [Wordy, hdigits, List.all_eq_true]
    intro c hc
    exact isWordChar_of_isDigit (Nat.isDigit_of_mem_toDigits (by decide) (by decide) hc)

theorem isWord_int (n : Int) : IsWord (toString n) := by
  cases n with
  | ofNat n => exact isWord_nat n
  | negSucc n =>
    have hminus : IsWord "-" := ⟨by decide, by decide⟩
    exact hminus.append (isWord_nat (n + 1)).wordy

theorem wordy_zeros (n : Nat) : Wordy (Binary64.zeros n) := by
  rw [Wordy, Binary64.zeros, String.toList_ofList, List.all_replicate]
  split
  · rfl
  · decide

theorem isWord_withPoint {digits : String} (h : Wordy digits) (places : Nat) :
    IsWord (Binary64.withPoint digits places) := by
  have hpart {part : List Char} (hpart : part.Sublist digits.toList) : Wordy (String.ofList part) := by
    rw [Wordy, String.toList_ofList, List.all_eq_true]
    exact fun c hc => List.all_eq_true.mp h c (hpart.subset hc)
  have hpoint : Wordy "." := by decide
  refine ⟨?_, ((hpart (List.take_sublist _ _)).append hpoint).append (hpart (List.drop_sublist _ _))⟩
  simp [Binary64.withPoint]

theorem isWord_positionalText (d : Nat) (k : Int) : IsWord (Binary64.positionalText d k) := by
  have hdigits := isWord_nat d
  have hzero : IsWord "0." := ⟨by decide, by decide⟩
  unfold Binary64.positionalText
  dsimp only
  split
  · exact hdigits.append (wordy_zeros _)
  · split
    · exact isWord_withPoint hdigits.wordy _
    · exact (hzero.append (wordy_zeros _)).append hdigits.wordy

theorem isWord_pointedText (d : Nat) (k : Int) : IsWord (Binary64.pointedText d k) := by
  have hdigits := isWord_nat d
  have htail : Wordy ".0" := by decide
  have hexponent : Wordy "e" := by decide
  unfold Binary64.pointedText
  dsimp only
  split
  · exact (hdigits.append (wordy_zeros _)).append htail
  · split
    · exact isWord_positionalText d k
    · split
      · exact (hdigits.append hexponent).append (isWord_int _).wordy
      · exact ((isWord_withPoint hdigits.wordy _).append hexponent).append (isWord_int _).wordy

theorem isWord_jsonText (x : Binary64) : IsWord (x.jsonText.getD "null") := by
  have hnull : IsWord "null" := ⟨by decide, by decide⟩
  have hzero : IsWord "0.0" := ⟨by decide, by decide⟩
  have hsign {w : String} (negative : Bool) (h : IsWord w) : IsWord (Binary64.signText negative ++ w) := by
    cases negative with
    | false => simpa [Binary64.signText] using h
    | true =>
      have hminus : IsWord "-" := ⟨by decide, by decide⟩
      exact hminus.append h.wordy
  cases x with
  | nan => exact hnull
  | infinite s => exact hnull
  | finite s m e =>
    rw [Binary64.jsonText]
    dsimp only [Option.getD_some]
    refine hsign s ?_
    split
    · exact hzero
    · exact isWord_pointedText _ _

/-! ## Values -/

mutual

def doc : Json → Doc
  | .null => .word "null"
  | .bool b => .word (if b then "true" else "false")
  | .int n => .word (toString n)
  | .number x => .word (x.jsonText.getD "null")
  | .string s => .text s
  | .array items => .array (docItems items)
  | .object fields => .object (docFields fields)

def docItems : List Json → List Doc
  | [] => []
  | j :: js => j.doc :: docItems js

def docFields : List (String × Json) → List (String × Doc)
  | [] => []
  | (name, j) :: fields => (name, j.doc) :: docFields fields

end

theorem isWord_null : IsWord "null" := ⟨by decide, by decide⟩

theorem isWord_bool (b : Bool) : IsWord (if b then "true" else "false") := by
  cases b with
  | false => exact ⟨by decide, by decide⟩
  | true => exact ⟨by decide, by decide⟩

theorem lexes_field (name : String) (blanks : List Char) (hblanks : blanks.all isSpace = true) {value : List Char}
    {ts : List Token} (h : Lexes value ts) :
    Lexes ((quote name).toList ++ ':' :: (blanks ++ value)) (.text name :: .mark ':' :: ts) := by
  intro rest hrest
  rw [List.append_assoc, List.cons_append, lexes_quote name _ (ends_cons (.inr (by decide)) _), tokens_mark (by decide),
    List.append_assoc, tokens_spaces hblanks, h rest hrest]
  rfl

mutual

theorem lexes_compact : ∀ j : Json, Lexes j.compact.toList j.doc.tokens
  | .null => by
    rw [compact, doc, Doc.tokens]
    exact isWord_null.lexes
  | .bool b => by
    rw [compact, doc, Doc.tokens]
    exact (isWord_bool b).lexes
  | .int n => by
    rw [compact, doc, Doc.tokens]
    exact (isWord_int n).lexes
  | .number x => by
    rw [compact, doc, Doc.tokens]
    exact (isWord_jsonText x).lexes
  | .string s => by
    rw [compact, doc, Doc.tokens]
    exact lexes_quote s
  | .array items => by
    have hitems := lexes_intercalate [] rfl (lexes_compactItems items)
    have htext : (array items).compact.toList =
        '[' :: ([] ++ ([','].intercalate ((compactItems items).map String.toList) ++ ([] ++ [']']))) := by
      rw [compact, String.toList_append, String.toList_append, String.toList_intercalate]
      rfl
    rw [htext, doc, Doc.tokens]
    exact lexes_brackets rfl rfl [] [] rfl rfl hitems
  | .object fields => by
    have hfields := lexes_intercalate [] rfl (lexes_compactFields fields)
    have htext : (object fields).compact.toList =
        '\x7b' :: ([] ++ ([','].intercalate ((compactFields fields).map String.toList) ++ ([] ++ ['\x7d']))) := by
      rw [compact, String.toList_append, String.toList_append, String.toList_intercalate]
      rfl
    rw [htext, doc, Doc.tokens]
    exact lexes_brackets rfl rfl [] [] rfl rfl hfields

theorem lexes_compactItems : ∀ js : List Json,
    List.Forall₂ Lexes ((compactItems js).map String.toList) (Doc.itemTokens (docItems js))
  | [] => by
    rw [compactItems, docItems, Doc.itemTokens]
    exact .nil
  | j :: js => by
    rw [compactItems, docItems, Doc.itemTokens]
    exact .cons (lexes_compact j) (lexes_compactItems js)

theorem lexes_compactFields : ∀ fields : List (String × Json),
    List.Forall₂ Lexes ((compactFields fields).map String.toList) (Doc.fieldTokens (docFields fields))
  | [] => by
    rw [compactFields, docFields, Doc.fieldTokens]
    exact .nil
  | (name, j) :: fields => by
    have htext : (quote name ++ ":" ++ j.compact).toList = (quote name).toList ++ ':' :: ([] ++ j.compact.toList) := by
      rw [String.toList_append, String.toList_append, List.append_assoc]
      rfl
    rw [compactFields, docFields, Doc.fieldTokens, List.map_cons, htext]
    exact .cons (lexes_field name [] rfl (lexes_compact j)) (lexes_compactFields fields)

end

theorem newLine_spaces (depth : Nat) : (newLine depth).toList.all isSpace = true := by
  have hblanks : (List.replicate (2 * depth) ' ').all isSpace = true := by
    rw [List.all_eq_true]
    intro c hc
    rw [(List.mem_replicate.mp hc).2]
    rfl
  have htext : (newLine depth).toList = '\n' :: List.replicate (2 * depth) ' ' := by simp [newLine]
  rw [htext, List.all_cons, hblanks]
  rfl

theorem lexes_bracketed {opening closing : String} {o c : Char} (hopening : opening.toList = [o])
    (hclosing : closing.toList = [c]) (ho : isMark o = true) (hc : isMark c = true) (depth : Nat)
    {texts : List String} {pieces : List (List Token)}
    (h : List.Forall₂ Lexes (texts.map String.toList) pieces) :
    Lexes (bracketed opening closing depth texts).toList (.mark o :: (Doc.joined pieces ++ [.mark c])) := by
  unfold bracketed
  split
  case isTrue hempty =>
    rw [List.isEmpty_iff] at hempty
    subst hempty
    cases h
    have hnothing : Lexes [] [] := fun _ _ => rfl
    rw [String.toList_append, hopening, hclosing]
    exact lexes_brackets ho hc [] [] rfl rfl hnothing
  case isFalse =>
    have hinner := lexes_intercalate (newLine (depth + 1)).toList (newLine_spaces (depth + 1)) h
    have hall := lexes_brackets ho hc _ _ (newLine_spaces (depth + 1)) (newLine_spaces depth) hinner
    have hcomma : ("," ++ newLine (depth + 1)).toList = ',' :: (newLine (depth + 1)).toList := String.toList_append
    simp only [String.toList_append, String.toList_intercalate, hopening, hclosing, hcomma, List.append_assoc,
      List.singleton_append]
    exact hall

mutual

theorem lexes_prettyAt : ∀ (depth : Nat) (j : Json), Lexes (prettyAt depth j).toList j.doc.tokens
  | _, .null => by
    rw [prettyAt, doc, Doc.tokens]
    exact isWord_null.lexes
  | _, .bool b => by
    rw [prettyAt, doc, Doc.tokens]
    exact (isWord_bool b).lexes
  | _, .int n => by
    rw [prettyAt, doc, Doc.tokens]
    exact (isWord_int n).lexes
  | _, .number x => by
    rw [prettyAt, doc, Doc.tokens]
    exact (isWord_jsonText x).lexes
  | _, .string s => by
    rw [prettyAt, doc, Doc.tokens]
    exact lexes_quote s
  | depth, .array items => by
    rw [prettyAt, doc, Doc.tokens]
    exact lexes_bracketed rfl rfl rfl rfl depth (lexes_prettyItems (depth + 1) items)
  | depth, .object fields => by
    rw [prettyAt, doc, Doc.tokens]
    exact lexes_bracketed rfl rfl rfl rfl depth (lexes_prettyFields (depth + 1) fields)

theorem lexes_prettyItems : ∀ (depth : Nat) (js : List Json),
    List.Forall₂ Lexes ((prettyItems depth js).map String.toList) (Doc.itemTokens (docItems js))
  | _, [] => by
    rw [prettyItems, docItems, Doc.itemTokens]
    exact .nil
  | depth, j :: js => by
    rw [prettyItems, docItems, Doc.itemTokens]
    exact .cons (lexes_prettyAt depth j) (lexes_prettyItems depth js)

theorem lexes_prettyFields : ∀ (depth : Nat) (fields : List (String × Json)),
    List.Forall₂ Lexes ((prettyFields depth fields).map String.toList) (Doc.fieldTokens (docFields fields))
  | _, [] => by
    rw [prettyFields, docFields, Doc.fieldTokens]
    exact .nil
  | depth, (name, j) :: fields => by
    have htext : (quote name ++ ": " ++ prettyAt depth j).toList =
        (quote name).toList ++ ':' :: ([' '] ++ (prettyAt depth j).toList) := by
      rw [String.toList_append, String.toList_append, List.append_assoc]
      rfl
    rw [prettyFields, docFields, Doc.fieldTokens, List.map_cons, htext]
    exact .cons (lexes_field name [' '] rfl (lexes_prettyAt depth j)) (lexes_prettyFields depth fields)

end

/-! ## Reading back -/

theorem read?_of_lexes {text : String} {d : Doc} (h : Lexes text.toList d.tokens) (blanks : String)
    (hblanks : blanks.toList.all isSpace = true) : read? (text ++ blanks) = some d := by
  have hends : Ends (blanks.toList ++ []) := ends_append hblanks (by intro c hc; cases hc)
  have hnone : tokens .between (blanks.toList ++ []) = [] := tokens_spaces hblanks []
  rw [List.append_nil] at hends hnone
  rw [read?, String.toList_append, h _ hends, hnone, List.append_nil, State.run_tokens]
  rfl

theorem read?_compact (j : Json) : read? j.compact = some j.doc := by
  have hread := read?_of_lexes (lexes_compact j) "" rfl
  rwa [String.append_empty] at hread

/-- What is written on several lines is read back, also with a line end behind it. -/
theorem read?_pretty_feed (j : Json) : read? (j.pretty ++ "\n") = some j.doc :=
  read?_of_lexes (lexes_prettyAt 0 j) "\n" rfl

/-! ## Lines -/

theorem feed_not_mem_of_isWord {w : String} (h : IsWord w) : '\n' ∉ w.toList := by
  intro hmem
  have hchar := List.all_eq_true.mp h.wordy _ hmem
  exact absurd hchar (by decide)

theorem Spelled.feed_not_mem {c : Char} {cs : List Char} (h : Spelled c cs) : '\n' ∉ cs := by
  have hdigit : ∀ n < 16, '\n' ≠ hexDigit n := by decide
  cases h with
  | plain _ _ hfeed => simpa using Ne.symm hfeed
  | @short d _ hd =>
    have hne : '\n' ≠ d := by
      rintro rfl
      cases hd
    simpa using hne
  | code hcontrol => simp [hdigit (c.toNat / 16) (by omega), hdigit (c.toNat % 16) (by omega)]

theorem feed_not_mem_quote (s : String) : '\n' ∉ (quote s).toList := by
  have hmark : "\"".toList = ['\x22'] := by decide
  simp only [quote, String.toList_append, hmark, String.toList_ofList, List.mem_append, List.mem_singleton,
    List.mem_flatMap]
  rintro ((h | ⟨c, _, h⟩) | h)
  · exact absurd h (by decide)
  · exact (spelled_escapeChar c).feed_not_mem h
  · exact absurd h (by decide)

/-- Texts on one line, with commas between them. -/
theorem feed_not_mem_intercalate {texts : List String} (h : ∀ text ∈ texts, '\n' ∉ text.toList) :
    '\n' ∉ (",".intercalate texts).toList := by
  have hmark : ",".toList = [','] := by decide
  rw [String.toList_intercalate, hmark]
  induction texts with
  | nil => exact List.not_mem_nil
  | cons text texts ih =>
    obtain ⟨hfirst, hothers⟩ := List.forall_mem_cons.mp h
    cases texts with
    | nil =>
      rw [List.map_cons, List.map_nil, List.intercalate_singleton]
      exact hfirst
    | cons next texts =>
      rw [List.map_cons, List.map_cons, List.intercalate_cons_cons, List.mem_append, List.mem_append]
      rintro ((hmem | hmem) | hmem)
      · exact hfirst hmem
      · exact absurd hmem (by decide)
      · exact ih hothers hmem

mutual

theorem feed_not_mem_compact : ∀ j : Json, '\n' ∉ j.compact.toList
  | .null => by
    rw [compact]
    exact feed_not_mem_of_isWord isWord_null
  | .bool b => by
    rw [compact]
    exact feed_not_mem_of_isWord (isWord_bool b)
  | .int n => by
    rw [compact]
    exact feed_not_mem_of_isWord (isWord_int n)
  | .number x => by
    rw [compact]
    exact feed_not_mem_of_isWord (isWord_jsonText x)
  | .string s => by
    rw [compact]
    exact feed_not_mem_quote s
  | .array items => by
    have hitems := feed_not_mem_intercalate (feed_not_mem_compactItems items)
    rw [compact, String.toList_append, String.toList_append]
    simpa using hitems
  | .object fields => by
    have hfields := feed_not_mem_intercalate (feed_not_mem_compactFields fields)
    rw [compact, String.toList_append, String.toList_append]
    simpa using hfields

theorem feed_not_mem_compactItems : ∀ js : List Json, ∀ text ∈ compactItems js, '\n' ∉ text.toList
  | [] => by
    rw [compactItems]
    exact List.forall_mem_nil _
  | j :: js => by
    rw [compactItems, List.forall_mem_cons]
    exact ⟨feed_not_mem_compact j, feed_not_mem_compactItems js⟩

theorem feed_not_mem_compactFields : ∀ fields : List (String × Json), ∀ text ∈ compactFields fields, '\n' ∉ text.toList
  | [] => by
    rw [compactFields]
    exact List.forall_mem_nil _
  | (name, j) :: fields => by
    rw [compactFields, List.forall_mem_cons]
    refine ⟨?_, feed_not_mem_compactFields fields⟩
    have hname := feed_not_mem_quote name
    have hvalue := feed_not_mem_compact j
    rw [String.toList_append, String.toList_append]
    simpa using ⟨hname, hvalue⟩

end

end SourceAudit.Json
