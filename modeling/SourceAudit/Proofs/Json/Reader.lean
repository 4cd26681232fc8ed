import Mathlib.Data.List.Basic
import SourceAudit.Text.Ascii

/-!
# Reading JSON

A reader for JSON texts, in two steps: from characters to tokens, and from tokens to what they say.

* `Doc` : what a JSON text says; numbers and other words stay as they are written;
* `tokens` : the marks, words and strings of a text; any run of other characters is a word;
* `State` : what is read, with the open arrays and objects around it, and `State.step` : what a token does;
* `read?` : what a text says, if its tokens say something;
* `run_tokens` : reading the tokens that say something gives it back.
-/

namespace SourceAudit.Json

/-- What a JSON text says. Numbers, truth values and `null` are words, and stay as they are written. -/
inductive Doc where
  | word (text : String)
  | text (value : String)
  | array (items : List Doc)
  | object (fields : List (String × Doc))

/-! ## Tokens -/

/-- A part of a JSON text. -/
inductive Token where
  | mark (c : Char)
  | word (text : String)
  | text (value : String)
  /-- A string that is not closed, or holds an escape that means nothing. -/
  | broken
  deriving DecidableEq, Repr

def isMark (c : Char) : Bool := ['\x7b', '\x7d', '[', ']', ':', ','].contains c

def isSpace (c : Char) : Bool := [' ', '\n', '\r', '\t'].contains c

/-- What a character behind a backslash stands for. -/
def escaped? : Char → Option Char
  | '\x22' => some '\x22'
  | '\\' => some '\\'
  | '/' => some '/'
  | 'b' => some '\x08'
  | 'f' => some '\x0c'
  | 'n' => some '\n'
  | 'r' => some '\r'
  | 't' => some '\t'
  | _ => none

/-- Where the reader is; `read` is what it has read of a word or a string, backwards. -/
inductive Place where
  | between
  | word (read : List Char)
  | text (read : List Char)
  /-- Behind a backslash. -/
  | escape (read : List Char)
  /-- In a character that is given by its code: there are more digits to come, besides the next one. -/
  | code (read : List Char) (more value : Nat)

def tokens : Place → List Char → List Token
  | .between, [] => []
  | .word read, [] => [.word (String.ofList read.reverse)]
  | .text _, [] => [.broken]
  | .escape _, [] => [.broken]
  | .code .., [] => [.broken]
  | .between, c :: cs =>
    if isSpace c then tokens .between cs
    else if isMark c then .mark c :: tokens .between cs
    else if c = '\x22' then tokens (.text []) cs
    else tokens (.word [c]) cs
  | .word read, c :: cs =>
    if isSpace c then .word (String.ofList read.reverse) :: tokens .between cs
    else if isMark c then .word (String.ofList read.reverse) :: .mark c :: tokens .between cs
    else tokens (.word (c :: read)) cs
  | .text read, c :: cs =>
    if c = '\x22' then .text (String.ofList read.reverse) :: tokens .between cs
    else if c = '\\' then tokens (.escape read) cs
    else tokens (.text (c :: read)) cs
  | .escape read, c :: cs =>
    if c = 'u' then tokens (.code read 3 0) cs
    else
      match escaped? c with
      | some d => tokens (.text (d :: read)) cs
      | none => [.broken]
  | .code read more value, c :: cs =>
    match Text.hexValue? c, more with
    | some d, 0 => tokens (.text (Char.ofNat (16 * value + d) :: read)) cs
    | some d, more + 1 => tokens (.code read more (16 * value + d)) cs
    | none, _ => [.broken]

/-! ## Values -/

/-- An array or an object around a value. -/
inductive Frame where
  | items (before : List Doc)
  | field (before : List (String × Doc)) (name : String)

/-- What is read, and what comes next. -/
inductive State where
  | value (stack : List Frame)
  | firstItem (stack : List Frame)
  | firstName (stack : List Frame)
  | nextName (fields : List (String × Doc)) (stack : List Frame)
  | colon (fields : List (String × Doc)) (name : String) (stack : List Frame)
  | behindItem (items : List Doc) (stack : List Frame)
  | behindField (fields : List (String × Doc)) (stack : List Frame)
  | done (d : Doc)
  | failed

namespace State

def put : List Frame → Doc → State
  | [], d => .done d
  | .items items :: stack, d => .behindItem (items ++ [d]) stack
  | .field fields name :: stack, d => .behindField (fields ++ [(name, d)]) stack

/-- Behind the first token of a value. -/
def enter (stack : List Frame) : Token → State
  | .word w => put stack (.word w)
  | .text s => put stack (.text s)
  | .mark '[' => .firstItem stack
  | .mark '\x7b' => .firstName stack
  | _ => .failed

def step : State → Token → State
  | .value stack, t => enter stack t
  | .firstItem stack, .mark ']' => put stack (.array [])
  | .firstItem stack, t => enter (.items [] :: stack) t
  | .firstName stack, .mark '\x7d' => put stack (.object [])
  | .firstName stack, .text name => .colon [] name stack
  | .nextName fields stack, .text name => .colon fields name stack
  | .colon fields name stack, .mark ':' => .value (.field fields name :: stack)
  | .behindItem items stack, .mark ',' => .value (.items items :: stack)
  | .behindItem items stack, .mark ']' => put stack (.array items)
  | .behindField fields stack, .mark ',' => .nextName fields stack
  | .behindField fields stack, .mark '\x7d' => put stack (.object fields)
  | _, _ => .failed

def run (state : State) (ts : List Token) : State := ts.foldl step state

def value? : State → Option Doc
  | .done d => some d
  | _ => none

end State

def read? (text : String) : Option Doc := ((State.value []).run (tokens .between text.toList)).value?

namespace Doc

/-- Lists of tokens with a comma after each but the last. -/
def joined (pieces : List (List Token)) : List Token := [Token.mark ','].intercalate pieces

mutual

def tokens : Doc → List Token
  | .word w => [.word w]
  | .text s => [.text s]
  | .array items => .mark '[' :: (joined (itemTokens items) ++ [.mark ']'])
  | .object fields => .mark '\x7b' :: (joined (fieldTokens fields) ++ [.mark '\x7d'])

def itemTokens : List Doc → List (List Token)
  | [] => []
  | d :: ds => d.tokens :: itemTokens ds

def fieldTokens : List (String × Doc) → List (List Token)
  | [] => []
  | (name, d) :: fields => (.text name :: .mark ':' :: d.tokens) :: fieldTokens fields

end

end Doc

/-! ## Reading tokens -/

theorem Doc.joined_cons (piece : List Token) (pieces : List (List Token)) :
    joined (piece :: pieces) = piece ++ pieces.flatMap (Token.mark ',' :: ·) := by
  induction pieces generalizing piece with
  | nil => simp [joined]
  | cons next pieces ih =>
    have hstep : joined (piece :: next :: pieces) = piece ++ Token.mark ',' :: joined (next :: pieces) := by
      simp [joined, List.intercalate_cons_cons]
    rw [hstep, ih, List.flatMap_cons, List.cons_append]

namespace State

theorem run_append (state : State) (a b : List Token) : state.run (a ++ b) = (state.run a).run b := List.foldl_append

theorem run_cons (state : State) (t : Token) (ts : List Token) : state.run (t :: ts) = (state.step t).run ts := rfl

/-- No value starts with a closing bracket, so it does not matter that the array could have been empty. -/
theorem run_firstItem (d : Doc) (stack : List Frame) :
    (State.firstItem stack).run d.tokens = (State.value (.items [] :: stack)).run d.tokens := by
  cases d <;> rw [Doc.tokens] <;> rfl

mutual

theorem run_tokens : ∀ (d : Doc) (stack : List Frame), (State.value stack).run d.tokens = put stack d
  | .word w, stack => by
    rw [Doc.tokens]
    rfl
  | .text s, stack => by
    rw [Doc.tokens]
    rfl
  | .array [], stack => by
    rw [Doc.tokens]
    rfl
  | .array (d :: ds), stack => by
    rw [Doc.tokens, Doc.itemTokens, Doc.joined_cons, run_cons, List.append_assoc, run_append]
    show ((State.firstItem stack).run d.tokens).run _ = _
    rw [run_firstItem, run_tokens d, put]
    exact run_items ds [d] stack
  | .object [], stack => by
    rw [Doc.tokens]
    rfl
  | .object ((name, d) :: fields), stack => by
    rw [Doc.tokens, Doc.fieldTokens, Doc.joined_cons, run_cons, List.append_assoc, run_append, run_cons, run_cons]
    show ((State.value (.field [] name :: stack)).run d.tokens).run _ = _
    rw [run_tokens d, put]
    exact run_fields fields [(name, d)] stack

theorem run_items : ∀ (ds items : List Doc) (stack : List Frame),
    (State.behindItem items stack).run ((Doc.itemTokens ds).flatMap (Token.mark ',' :: ·) ++ [.mark ']']) =
      put stack (.array (items ++ ds))
  | [], items, stack => by
    rw [Doc.itemTokens, List.append_nil]
    rfl
  | d :: ds, items, stack => by
    rw [Doc.itemTokens, List.flatMap_cons, List.append_assoc, List.cons_append, run_cons, run_append]
    show ((State.value (.items items :: stack)).run d.tokens).run _ = _
    rw [run_tokens d, put, run_items ds, ← List.append_cons]

theorem run_fields : ∀ (more fields : List (String × Doc)) (stack : List Frame),
    (State.behindField fields stack).run ((Doc.fieldTokens more).flatMap (Token.mark ',' :: ·) ++ [.mark '\x7d']) =
      put stack (.object (fields ++ more))
  | [], fields, stack => by
    rw [Doc.fieldTokens, List.append_nil]
    rfl
  | (name, d) :: more, fields, stack => by
    rw [Doc.fieldTokens, List.flatMap_cons, List.append_assoc, List.cons_append, run_cons, run_append,
      run_cons, run_cons]
    show ((State.value (.field fields name :: stack)).run d.tokens).run _ = _
    rw [run_tokens d, put, run_fields more, ← List.append_cons]

end

end State

end SourceAudit.Json
