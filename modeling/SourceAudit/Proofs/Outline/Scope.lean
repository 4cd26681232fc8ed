import SourceAudit.Proofs.Outline.Placement
import SourceAudit.Proofs.Outline.Spans
import SourceAudit.Proofs.Sorting

/-!
# Scopes are innermost blocks

The stack of open functions only loses functions at its top. Blocks nest, so that what is on top is the innermost
function whose block the next line belongs to.

* `NodeSpec.Covers f line` : the line belongs to the block of a function declared before it;
* `Innermost es line o` : `o` is the number and the name of the last function that covers the line;
* `Row.Describes es r n parent` : a node has the scope of its line, and stands below its holder or else below the scope;
* `Stacked es number lines functions` : the stack holds the functions whose blocks go on, and their ends nest;
* `Stacked.innermost` : the top of the stack is the innermost function;
* `Surveyed rs es number`, `addLine_surveyed`, `buildFrom_surveyed` : so lines add nodes with the right scopes;
* `scope_is_innermost` : what this says of the nodes of a built tree and their ancestors;
* `mem_ancestors_iff_covers` : the functions above a node are those whose blocks it belongs to.
-/

namespace SourceAudit

/-- The line belongs to the block of a function that is declared on an earlier line. -/
def NodeSpec.Covers (f : NodeSpec) (line : Nat) : Prop :=
  f.kind = "FunctionDeclaration" ∧ f.start.line < line ∧ ∃ stop, f.stop = some stop ∧ line ≤ stop.line

instance (f : NodeSpec) (line : Nat) : Decidable (f.Covers line) :=
  decidable_of_iff
      (f.kind = "FunctionDeclaration" ∧ f.start.line < line ∧ f.stop.any (fun stop => line ≤ stop.line) = true) <| by
    simp only [NodeSpec.Covers, Option.any_eq_true, decide_eq_true_eq]

namespace Outline

variable {es more : List (NodeSpec × Option Nat)} {n : NodeSpec} {parent : Option Nat} {number : Nat} {line : List Char}
  {rest lines : List (List Char)} {functions : List OpenFunction} {enclosing : Option OpenFunction}
    {cs : List Candidate}
  {c : Candidate} {rs : List Row} {hash : Bool}

/-! ## Innermost functions -/

/-- The number and the name of the last function that covers a line, if there is one. -/
inductive Innermost (es : List (NodeSpec × Option Nat)) (number : Nat) : Option (Nat × String) → Prop where
  | none : (∀ e ∈ es, ¬e.1.Covers number) → Innermost es number none
  | some {i : Nat} {f : NodeSpec} {parent : Option Nat} {name : String} : es[i]? = some (f, parent) → f.Covers number →
      f.name = some name → (∀ (j : Nat) (e : NodeSpec × Option Nat), es[j]? = some e → e.1.Covers number → j ≤ i) →
      Innermost es number (some (i, name))

/-- What a row says of an entry. It has the scope of its line, and stands below the candidate of the line that holds
it, or else below the innermost function. -/
structure Row.Describes (es : List (NodeSpec × Option Nat)) (r : Row) (n : NodeSpec) (parent : Option Nat) : Prop where
  kind_eq : n.kind = r.candidate.kind.name
  name_eq : n.name = r.candidate.name
  starts : StartsAt r.line r.number r.candidate n
  inScope : ∃ o, Innermost es r.number o ∧ n.scope = o.map (·.2) ∧ parent = r.held.or (o.map (·.1))
  holder : ∀ p ∈ r.held, ∃ e, es[p]? = some e ∧ e.1.start.line = r.number

/-- Functions that are declared later do not cover a line. -/
theorem Innermost.append {o : Option (Nat × String)} (h : Innermost es number o)
    (hmore : ∀ e ∈ more, number ≤ e.1.start.line) : Innermost (es ++ more) number o := by
  have hnot : ∀ e ∈ more, ¬e.1.Covers number := fun e he hcovers => absurd hcovers.2.1 (hmore e he).not_gt
  cases h with
  | none hes =>
    refine .none fun e he => ?_
    rcases List.mem_append.mp he with he | he
    · exact hes e he
    · exact hnot e he
  | some hi hcovers hname hlast =>
    refine .some (getElem?_of_extends (List.prefix_append _ _) hi) hcovers hname fun j e hj hj' => ?_
    by_cases hlt : j < es.length
    · rw [List.getElem?_append_left hlt] at hj
      exact hlast j e hj hj'
    · rw [List.getElem?_append_right (not_lt.mp hlt)] at hj
      exact absurd hj' (hnot e (List.mem_of_getElem? hj))

theorem Innermost.unique {o o' : Option (Nat × String)} (h : Innermost es number o) (h' : Innermost es number o') :
    o = o' := by
  cases h with
  | none hnone =>
    cases h' with
    | none => rfl
    | some hi hcovers => exact absurd hcovers (hnone _ (List.mem_of_getElem? hi))
  | some hi hcovers hname hlast =>
    cases h' with
    | none hnone => exact absurd hcovers (hnone _ (List.mem_of_getElem? hi))
    | some hi' hcovers' hname' hlast' =>
      obtain rfl := le_antisymm (hlast' _ _ hi hcovers) (hlast _ _ hi' hcovers')
      cases hi.symm.trans hi'
      cases hname.symm.trans hname'
      rfl

theorem Row.Describes.start_line {r : Row} (h : r.Describes es n parent) : n.start.line = r.number := by
  obtain ⟨column, -, hstart⟩ := h.starts
  rw [hstart]

theorem Row.Describes.append {r : Row} (h : r.Describes es n parent) (hmore : ∀ e ∈ more, r.number ≤ e.1.start.line) :
    r.Describes (es ++ more) n parent := by
  obtain ⟨hkind, hname, hstarts, ⟨o, ho, hscope⟩, hholder⟩ := h
  refine ⟨hkind, hname, hstarts, ⟨o, ho.append hmore, hscope⟩, fun p hp => ?_⟩
  obtain ⟨e, he, hline⟩ := hholder p hp
  exact ⟨e, getElem?_of_extends (List.prefix_append _ _) he, hline⟩

/-! ## Nodes of a line -/

theorem nodeSpec_scope {scope : Option String} : Yields (nodeSpec line rest number scope c) fun n => n.scope = scope :=
  .after fun _ _ => .after fun _ _ => .ok rfl

theorem kind_eq_function_iff (hk : n.kind = c.kind.name) :
    n.kind = "FunctionDeclaration" ↔ c.kind = .functionDeclaration := by
  rw [hk]
  exact ⟨fun h => NodeKind.name_injective h, fun h => by rw [h]; rfl⟩

theorem Added.start_line {base : Nat} (h : Added line rest number enclosing base cs more) :
    ∀ e ∈ more, e.1.start.line = number := by
  intro e he
  obtain ⟨i, hi⟩ := List.mem_iff_getElem?.mp he
  obtain ⟨done, c, todo, -, -, hn, -⟩ := h.of_getElem? hi
  obtain ⟨⟨column, -, hstart⟩, -⟩ := nodeSpec_yields _ hn
  rw [hstart]

theorem Added.described {i : Nat} (h : Added line rest number enclosing es.length cs more)
    (hin : Innermost es number (enclosing.map fun f => (f.id, f.name))) (hi : more[i]? = some (n, parent)) :
    ∃ r, (lineRows es.length number line cs)[i]? = some r ∧ r.Describes (es ++ more) n parent := by
  obtain ⟨r, hr, rfl, rfl, hn, hparent, hheld⟩ := h.getElem?_lineRows hi
  obtain ⟨hkind, hname⟩ := nodeSpec_kind _ hn
  refine ⟨r, hr, hkind, hname, (nodeSpec_yields _ hn).1, ⟨_, hin.append fun e he => (h.start_line e he).ge, ?_, ?_⟩, ?_⟩
  · rw [nodeSpec_scope _ hn, Option.map_map]
    rfl
  · rw [hparent, Option.map_map]
    rfl
  · -- the holder is one of the entries before
    intro p hp
    obtain ⟨hle, hlt⟩ := hheld p hp
    have hi := (List.getElem?_eq_some_iff.mp hi).1
    have hp : (es ++ more)[p]? = some more[p - es.length] := by
      rw [List.getElem?_append_right hle, List.getElem?_eq_getElem]
    exact ⟨_, hp, h.start_line _ (List.getElem_mem _)⟩

theorem Added.others (h : Added line rest number enclosing es.length cs more)
    (hcs : cs.Pairwise fun a b => a.span.start ≤ b.span.start ∧ b.kind ≠ .functionDeclaration) :
    more.Pairwise fun _ e => e.1.kind ≠ "FunctionDeclaration" := by
  refine List.pairwise_iff_getElem.mpr fun i j hi hj hlt => ?_
  have hentry : more[j]? = some (more[j].1, more[j].2) := List.getElem?_eq_getElem hj
  obtain ⟨done, c, todo, rfl, rfl, hn, -⟩ := h.of_getElem? hentry
  rw [Ne, kind_eq_function_iff (nodeSpec_kind _ hn).1]
  -- there is a candidate in front of this one
  obtain ⟨d, ds, rfl⟩ := List.exists_cons_of_length_pos (Nat.zero_lt_of_lt hlt)
  exact ((List.pairwise_append.mp hcs).2.2 d List.mem_cons_self c List.mem_cons_self).2

/-! ## The function that a line opens -/

theorem function_named {mask : List Char} {m : Regex.Match} (h : Regex.Matches functionShape mask m) :
    ∃ s, groupSpan? m 1 = some s := by
  obtain ⟨p, q, rfl, -, ht, rfl⟩ := h
  obtain ⟨_, -, _, -, _, -, _, -, _, -, _, -, _, -, _, -, hname⟩ := ht
  obtain ⟨k, -, -, -, hstart, hstop⟩ := Regex.takes_group_lookup hname (by decide)
  exact ⟨_, groupSpan?_of_lookup hstart hstop⟩

theorem nameAt?_some {text : List Char} {s : Span} : Yields (nameAt? text (some s)) fun o => ∃ name, o = some name :=
  .after fun name _ => .ok ⟨name, rfl⟩

theorem exists_name_of_function {masked : MaskedLine} (h : candidates line masked = .ok cs) (hc : c ∈ cs)
    (hk : c.kind = .functionDeclaration) : ∃ name, c.name = some name := by
  obtain ⟨m, hm⟩ := find?_of_function h hc hk
  obtain ⟨s, hs⟩ := function_named (Regex.find?_matches hm)
  obtain ⟨statement, others, hstatement, rfl, hothers⟩ := candidates_parts cs h
  have hnamed : Yields (statement? line masked.mask) fun o => ∀ c, o = some c → ∃ name, c.name = some name := by
    simp only [statement?, hm, hs]
    refine nameAt?_some.bind fun name hname => .ok fun c hc => ?_
    cases hc
    exact hname
  rcases List.mem_append.mp hc with hc | hc
  · exact hnamed statement hstatement c (Option.mem_toList.mp hc)
  · rcases hothers c hc with hfollows | ⟨hstring, -⟩
    · exact absurd hk hfollows.not_function
    · rw [hk] at hstring
      cases hstring

theorem openedBy_cases (t : SyntaxTree) (base : Nat) (cs : List Candidate) :
    (openedBy t (numbered base cs).reverse = none ∧ ∀ c ∈ cs, c.kind ≠ .functionDeclaration) ∨
    ∃ f front c back, openedBy t (numbered base cs).reverse = some f ∧ cs = front ++ c :: back ∧
      c.kind = .functionDeclaration ∧ f.id = base + front.length ∧ f.name = c.name.getD "" := by
  unfold openedBy
  cases hfind : (numbered base cs).reverse.find? fun p => decide (p.candidate.kind = .functionDeclaration) with
  | none =>
    refine .inl ⟨rfl, fun c hc => ?_⟩
    rw [← map_candidate_numbered base cs] at hc
    obtain ⟨p, hp, rfl⟩ := List.mem_map.mp hc
    simpa using List.find?_eq_none.mp hfind p (List.mem_reverse.mpr hp)
  | some p =>
    obtain ⟨front, back, hsplit⟩ := List.append_of_mem (List.mem_reverse.mp (List.mem_of_find?_eq_some hfind))
    obtain ⟨hcs, hid⟩ := split_of_numbered hsplit
    refine .inr ⟨_, _, _, _, rfl, hcs, by simpa using List.find?_some hfind, ?_, rfl⟩
    rw [List.length_map]
    exact hid

theorem entry_of_opened {masked : MaskedLine} {t : SyntaxTree} {f : OpenFunction}
    (hcs : candidates line masked = .ok cs)
    (hadded : Added line rest number enclosing es.length (cs.mergeSort Candidate.before) more)
    (hf : openedBy t (numbered es.length (cs.mergeSort Candidate.before)).reverse = some f) :
    es.length ≤ f.id ∧ ∃ m q c stop, (es ++ more)[f.id]? = some (m, q) ∧ m.kind = "FunctionDeclaration" ∧
      m.name = some f.name ∧ m.stop = some stop ∧ c ∈ cs ∧ Stops line rest number c stop := by
  rcases openedBy_cases t es.length (cs.mergeSort Candidate.before) with
    ⟨hnone, -⟩ | ⟨f', front, c, back, hf', hsplit, hk, hid, hname⟩
  · cases hf.symm.trans hnone
  · cases hf.symm.trans hf'
    obtain ⟨m, q, hm, hn, -⟩ := hadded.entry _ _ _ hsplit
    have hc : c ∈ cs := (List.mergeSort_perm cs Candidate.before).mem_iff.mp (by rw [hsplit]; simp)
    obtain ⟨name, hcname⟩ := exists_name_of_function hcs hc hk
    obtain ⟨hmk, hmn⟩ := nodeSpec_kind _ hn
    obtain ⟨-, stop, hstop, hstops⟩ := nodeSpec_yields _ hn
    rw [hid]
    refine ⟨Nat.le_add_right _ _, m, q, c, stop, ?_, (kind_eq_function_iff hmk).mpr hk, ?_, hstop, hc, hstops⟩
    · rw [List.getElem?_append_right (Nat.le_add_right _ _), Nat.add_sub_cancel_left, hm]
    · rw [hmn, hname, hcname]
      rfl

theorem opened_of_entry {t : SyntaxTree} {i : Nat} {e : NodeSpec × Option Nat}
    (hcs : candidates line (maskLine hash line) = .ok cs)
    (hadded : Added line rest number enclosing es.length (cs.mergeSort Candidate.before) more) (hi : more[i]? = some e)
    (hk : e.1.kind = "FunctionDeclaration") :
    ∃ f, openedBy t (numbered es.length (cs.mergeSort Candidate.before)).reverse = some f ∧ f.id = es.length + i := by
  have hfirst {front back : List Candidate} {c : Candidate} (hs : cs.mergeSort Candidate.before = front ++ c :: back)
      (hk : c.kind = .functionDeclaration) : front = [] := by
    refine List.eq_nil_iff_forall_not_mem.mpr fun d hd => ?_
    have hordered := hs ▸ ordered_candidates hcs
    exact ((List.pairwise_append.mp hordered).2.2 d hd c List.mem_cons_self).2 hk
  obtain ⟨done, c, todo, hsplit, rfl, hn, -⟩ := hadded.of_getElem? hi
  have hck := (kind_eq_function_iff (nodeSpec_kind _ hn).1).mp hk
  rcases openedBy_cases t es.length (cs.mergeSort Candidate.before) with
    ⟨-, hnone⟩ | ⟨f, front, d, back, hf, hsplit', hdk, hid, -⟩
  · exact absurd hck (hnone c (by rw [hsplit]; simp))
  · exact ⟨f, hf, by rw [hid, hfirst hsplit hck, hfirst hsplit' hdk]⟩

theorem end_within {f : OpenFunction} {stop : Location} (hf : OpenAt es number (line :: rest) f)
    (hlive : number ≤ f.endLine) (hstops : Stops line rest number c stop)
    (hcs : candidates line (maskLine hash line) = .ok cs) (hc : c ∈ cs) :
    stop.line ≤ f.endLine := by
  obtain ⟨m, q, stop', -, -, hline, hopen⟩ := hf
  obtain ⟨indent, k, last, hcloses, rfl⟩ := hopen hlive
  have hfirst : c.kind = .functionDeclaration → ∃ d tail, Text.trimStart line = d :: tail ∧
      closesBracket d = false := by
    intro hk
    obtain ⟨m, hm⟩ := find?_of_function hcs hc hk
    exact function_first (Regex.find?_matches hm)
  have hle := hstops.within_block hcloses hfirst
  rw [Location.pos_le_iff] at hle
  dsimp only at hle hline
  omega

/-! ## The stack -/

/-- The stack holds the functions whose blocks go on, the innermost first, and their ends nest. -/
structure Stacked (es : List (NodeSpec × Option Nat)) (number : Nat) (lines : List (List Char))
    (functions : List OpenFunction) : Prop where
  opened : ∀ f ∈ functions, OpenAt es number lines f
  declared : ∀ f ∈ functions, ∃ m q, es[f.id]? = some (m, q) ∧ m.kind = "FunctionDeclaration" ∧ m.name = some f.name
  complete : ∀ (i : Nat) (e : NodeSpec × Option Nat) (stop : Location), es[i]? = some e →
    e.1.kind = "FunctionDeclaration" → e.1.stop = some stop → number ≤ stop.line → ∃ f ∈ functions, f.id = i
  nested : functions.Pairwise fun f g => f.endLine ≤ g.endLine ∧ g.id < f.id

theorem Stacked.live (h : Stacked es number lines functions) :
    ∀ f ∈ functions.dropWhile (·.endLine < number), number ≤ f.endLine := by
  have hsorted := h.nested.sublist (List.dropWhile_sublist fun f => decide (f.endLine < number))
  have hhead := List.head?_dropWhile_not (fun f : OpenFunction => decide (f.endLine < number)) functions
  cases hdrop : functions.dropWhile (·.endLine < number) with
  | nil => simp
  | cons g gs =>
    rw [hdrop] at hsorted hhead
    have hg : number ≤ g.endLine := by simpa using hhead
    exact List.forall_mem_cons.mpr ⟨hg, fun f hf => hg.trans ((List.pairwise_cons.mp hsorted).1 f hf).1⟩

theorem mem_dropWhile_of_live {f : OpenFunction} (hf : f ∈ functions) (hlive : number ≤ f.endLine) :
    f ∈ functions.dropWhile (·.endLine < number) := by
  rw [← List.takeWhile_append_dropWhile (p := fun f : OpenFunction => decide (f.endLine < number))
    (l := functions)] at hf
  rcases List.mem_append.mp hf with hf | hf
  · have hended := List.all_eq_true.mp List.all_takeWhile f hf
    rw [decide_eq_true_eq] at hended
    omega
  · exact hf

theorem Stacked.drop (h : Stacked es number lines functions) :
    Stacked es number lines (functions.dropWhile (·.endLine < number)) where
  opened f hf := h.opened f ((List.dropWhile_sublist _).subset hf)
  declared f hf := h.declared f ((List.dropWhile_sublist _).subset hf)
  complete i e stop hi hk hstop hle := by
    obtain ⟨f, hf, rfl⟩ := h.complete i e stop hi hk hstop hle
    obtain ⟨m, q, stop', hm, hstop', hline, -⟩ := h.opened f hf
    cases hi.symm.trans hm
    cases hstop.symm.trans hstop'
    exact ⟨f, mem_dropWhile_of_live hf (hline ▸ hle), rfl⟩
  nested := h.nested.sublist (List.dropWhile_sublist _)

theorem Stacked.next (h : Stacked es number (line :: rest) functions) : Stacked es (number + 1) rest functions where
  opened f hf := (h.opened f hf).next
  declared := h.declared
  complete i e stop hi hk hstop hle := h.complete i e stop hi hk hstop (Nat.le_of_succ_le hle)
  nested := h.nested

theorem Stacked.push {t : SyntaxTree} (h : Stacked es number (line :: rest) functions)
    (hlive : ∀ f ∈ functions, number ≤ f.endLine) (hcs : candidates line (maskLine hash line) = .ok cs)
    (hadded : Added line rest number enclosing es.length (cs.mergeSort Candidate.before) more)
    (hopened : ∀ f ∈ openedBy t (numbered es.length (cs.mergeSort Candidate.before)).reverse,
      OpenAt (es ++ more) (number + 1) rest f) :
    Stacked (es ++ more) (number + 1) rest
      ((openedBy t (numbered es.length (cs.mergeSort Candidate.before)).reverse).toList ++ functions) where
  opened f hf := by
    rcases List.mem_append.mp hf with hf | hf
    · exact hopened f (Option.mem_toList.mp hf)
    · exact (h.opened f hf).next.mono (List.prefix_append _ _)
  declared f hf := by
    rcases List.mem_append.mp hf with hf | hf
    · obtain ⟨-, m, q, -, -, hm, hk, hname, -⟩ := entry_of_opened hcs hadded (Option.mem_toList.mp hf)
      exact ⟨m, q, hm, hk, hname⟩
    · obtain ⟨m, q, hm, hdeclared⟩ := h.declared f hf
      exact ⟨m, q, getElem?_of_extends (List.prefix_append _ _) hm, hdeclared⟩
  complete i e stop hi hk hstop hle := by
    by_cases hlt : i < es.length
    · rw [List.getElem?_append_left hlt] at hi
      obtain ⟨f, hf, hid⟩ := h.complete i e stop hi hk hstop (Nat.le_of_succ_le hle)
      exact ⟨f, List.mem_append_right _ hf, hid⟩
    · rw [List.getElem?_append_right (not_lt.mp hlt)] at hi
      obtain ⟨f, hf, hid⟩ := opened_of_entry hcs hadded hi hk
      exact ⟨f, List.mem_append_left _ (Option.mem_toList.mpr hf), by omega⟩
  nested := by
    refine List.pairwise_append.mpr ⟨?_, h.nested, fun f hf g hg => ?_⟩
    · cases openedBy t (numbered es.length (cs.mergeSort Candidate.before)).reverse with
      | none => exact List.Pairwise.nil
      | some f => exact List.pairwise_singleton _ _
    · have hf := Option.mem_toList.mp hf
      obtain ⟨hle, m, q, c, stop, hm, -, -, hstop, hc, hstops⟩ := entry_of_opened hcs hadded hf
      obtain ⟨m', q', stop', hm', hstop', hline, -⟩ := hopened f hf
      cases hm.symm.trans hm'
      cases hstop.symm.trans hstop'
      refine ⟨hline ▸ end_within (h.opened g hg) (hlive g hg) hstops hcs hc, ?_⟩
      obtain ⟨m, q, hm, -⟩ := h.declared g hg
      exact (List.getElem?_eq_some_iff.mp hm).1.trans_le hle

theorem Stacked.innermost (h : Stacked es number lines functions) (hstarts : ∀ e ∈ es, e.1.start.line < number) :
    Innermost es number ((functions.dropWhile (·.endLine < number)).head?.map fun f => (f.id, f.name)) := by
  have hlive := h.live
  have hdrop := h.drop
  -- a function that covers the line is on the stack
  have hmem (i : Nat) (e : NodeSpec × Option Nat) (hi : es[i]? = some e) (hcovers : e.1.Covers number) :
      ∃ f ∈ functions.dropWhile (·.endLine < number), f.id = i := by
    obtain ⟨hk, -, stop, hstop, hle⟩ := hcovers
    exact hdrop.complete i e stop hi hk hstop hle
  cases htop : functions.dropWhile (·.endLine < number) with
  | nil =>
    rw [htop] at hmem
    refine .none fun e he hcovers => ?_
    obtain ⟨i, hi⟩ := List.mem_iff_getElem?.mp he
    obtain ⟨f, hf, -⟩ := hmem i e hi hcovers
    cases hf
  | cons f fs =>
    rw [htop] at hmem hlive hdrop
    obtain ⟨m, q, hm, hk, hname⟩ := hdrop.declared f List.mem_cons_self
    obtain ⟨m', q', stop, hm', hstop, hline, -⟩ := hdrop.opened f List.mem_cons_self
    cases hm.symm.trans hm'
    have hcovers : m.Covers number :=
      ⟨hk, hstarts _ (List.mem_of_getElem? hm), stop, hstop, hline ▸ hlive f List.mem_cons_self⟩
    refine .some hm hcovers hname fun j e hj hj' => ?_
    obtain ⟨g, hg, rfl⟩ := hmem j e hj hj'
    rcases List.mem_cons.mp hg with rfl | hg
    · exact le_refl _
    · exact ((List.pairwise_cons.mp hdrop.nested).1 g hg).2.le

/-! ## Lines -/

/-- The entries of the lines so far: well nested, at most one function on a line, and as the rows of the lines say. -/
structure Surveyed (rs : List Row) (es : List (NodeSpec × Option Nat)) (number : Nat) : Prop where
  nested : WellNested es
  starts : ∀ e ∈ es, e.1.start.line < number
  apart : es.Pairwise fun a b => a.1.kind = "FunctionDeclaration" → b.1.kind = "FunctionDeclaration" →
    a.1.start.line < b.1.start.line
  length_eq : rs.length = es.length
  described : ∀ (i : Nat) (n : NodeSpec) (parent : Option Nat), es[i]? = some (n, parent) →
    ∃ r, rs[i]? = some r ∧ r.Describes es n parent

theorem Surveyed.apart_of_lt {i j : Nat} {a b : NodeSpec × Option Nat} (h : Surveyed rs es number)
    (ha : es[i]? = some a) (hb : es[j]? = some b) (hlt : i < j) (hak : a.1.kind = "FunctionDeclaration")
    (hbk : b.1.kind = "FunctionDeclaration") : a.1.start.line < b.1.start.line := by
  obtain ⟨hi, rfl⟩ := List.getElem?_eq_some_iff.mp ha
  obtain ⟨hj, rfl⟩ := List.getElem?_eq_some_iff.mp hb
  exact List.pairwise_iff_getElem.mp h.apart i j hi hj hlt hak hbk

/-- A line adds the nodes of its rows, and the stack goes on with the function that it opens. -/
theorem addLine_surveyed {tree : SyntaxTree} (h : Surveyed rs tree.entries number)
    (hstack : Stacked tree.entries number (line :: rest) functions)
    (hcode : Text.allBlank (maskLine hash line).mask = false) :
    Yields (addLine tree line (maskLine hash line) rest number (functions.dropWhile (·.endLine < number)).head?)
      fun r => Surveyed (rs ++ rowsAt hash tree.size number line) r.1.entries (number + 1) ∧
        Stacked r.1.entries (number + 1) rest (r.2.toList ++ functions.dropWhile (·.endLine < number)) := by
  have henclosing : ∀ f, (functions.dropWhile (·.endLine < number)).head? = some f →
      Encloses tree.entries line rest number f := fun f hf =>
    (hstack.drop.opened f (List.mem_of_head? hf)).encloses (hstack.live f (List.mem_of_head? hf))
  intro r hr
  obtain ⟨hnested, hstarts, -, hopened⟩ := addLine_yields h.nested h.starts henclosing r hr
  obtain ⟨cs, more, hcs, hes, hadded, t, -, hopens⟩ := addLine_added tree _ r hr
  have hrows : rowsAt hash tree.size number line = lineRows tree.size number line (cs.mergeSort Candidate.before) := by
    rw [rowsAt, hcode, hcs]
    rfl
  rw [← SyntaxTree.length_entries] at hadded hopens hrows ⊢
  rw [hes] at hnested hstarts hopened ⊢
  rw [hopens] at hopened ⊢
  rw [hrows]
  refine ⟨⟨hnested, hstarts, ?_, ?_, fun i n parent hi => ?_⟩, hstack.drop.push hstack.live hcs hadded hopened⟩
  · refine List.pairwise_append.mpr ⟨h.apart, ?_, fun a ha b hb _ _ => ?_⟩
    · exact (hadded.others (ordered_candidates hcs)).imp fun hb _ hbk => absurd hbk hb
    · rw [hadded.start_line b hb]
      exact h.starts a ha
  · rw [List.length_append, List.length_append, h.length_eq, lineRows, List.length_mapIdx, hadded.length_eq]
  · by_cases hlt : i < tree.entries.length
    · rw [List.getElem?_append_left hlt] at hi
      obtain ⟨r, hr, hdescribes⟩ := h.described i n parent hi
      refine ⟨r, by rw [List.getElem?_append_left (h.length_eq ▸ hlt), hr], hdescribes.append fun b hb => ?_⟩
      rw [hadded.start_line b hb, ← hdescribes.start_line]
      exact (h.starts _ (List.mem_of_getElem? hi)).le
    · rw [List.getElem?_append_right (not_lt.mp hlt)] at hi
      rw [List.getElem?_append_right (h.length_eq ▸ not_lt.mp hlt), h.length_eq]
      exact hadded.described (hstack.innermost h.starts) hi

/-- Lines add the nodes of their rows. -/
theorem buildFrom_surveyed {tree : SyntaxTree} (h : Surveyed rs tree.entries number)
    (hstack : Stacked tree.entries number lines functions) :
    Yields (buildFrom hash tree functions number lines) fun t =>
      Surveyed (rs ++ rows hash tree.size number lines) t.entries (number + lines.length) := by
  induction lines generalizing tree functions number rs with
  | nil => exact .ok (by rwa [rows, List.append_nil, List.length_nil])
  | cons line rest ih =>
    rw [buildFrom, rows, List.length_cons, Nat.add_comm rest.length 1, ← Nat.add_assoc, ← List.append_assoc]
    dsimp only
    split
    · rename_i hblank
      have hnone : rowsAt hash tree.size number line = [] := by rw [rowsAt, if_pos hblank]
      have hnext : Surveyed rs tree.entries (number + 1) :=
        ⟨h.nested, fun e he => Nat.lt_succ_of_lt (h.starts e he), h.apart, h.length_eq, h.described⟩
      rw [hnone, List.append_nil, List.length_nil, Nat.add_zero]
      exact ih hnext hstack.drop.next
    · rename_i hcode
      refine (addLine_surveyed h hstack (Bool.eq_false_iff.mpr hcode)).bind fun r hr => ?_
      have hsize : tree.size + (rowsAt hash tree.size number line).length = r.1.size := by
        have := hr.1.length_eq
        rwa [List.length_append, h.length_eq, SyntaxTree.length_entries, SyntaxTree.length_entries] at this
      rw [hsize]
      exact ih hr.1 hr.2

theorem surveyed_empty : Surveyed [] SyntaxTree.empty.entries 1 := ⟨wellNested_nil, by simp, by simp, rfl, by simp⟩

theorem stacked_empty (lines : List (List Char)) : Stacked SyntaxTree.empty.entries 1 lines [] :=
  ⟨by simp, by simp, by simp, List.Pairwise.nil⟩

theorem surveyed_of_lines {tree : SyntaxTree} (h : buildFrom hash .empty [] 1 lines = .ok tree) :
    Surveyed (rows hash 0 1 lines) tree.entries (1 + lines.length) :=
  buildFrom_surveyed surveyed_empty (stacked_empty _) tree h

/-! ## Ancestors -/

section Ancestors

variable {tree : SyntaxTree} {i k : Nat} {n f : SyntaxNode} {o : Option (Nat × String)}

theorem entry_of_get? (hi : tree.get? i = some n) : tree.entries[i]? = some (n.toNodeSpec, n.parent) := by
  rw [tree.getElem?_entries, hi]
  rfl

theorem exists_get?_of_entry {e : NodeSpec × Option Nat} (hi : tree.entries[i]? = some e) :
    ∃ n, tree.get? i = some n ∧ e = (n.toNodeSpec, n.parent) := by
  rw [tree.getElem?_entries] at hi
  obtain ⟨n, hn, rfl⟩ := Option.map_eq_some_iff.mp hi
  exact ⟨n, hn, rfl⟩

theorem parent?_of_get? (hi : tree.get? i = some n) : tree.parent? i = n.parent := by
  rw [SyntaxTree.parent?, hi]
  rfl

theorem Surveyed.innermost (h : Surveyed rs tree.entries number) (hi : tree.get? i = some n) :
    ∃ o, Innermost tree.entries n.start.line o ∧ n.scope = o.map (·.2) := by
  obtain ⟨r, -, hdescribes⟩ := h.described i _ _ (entry_of_get? hi)
  obtain ⟨o, ho, hscope, -⟩ := hdescribes.inScope
  exact ⟨o, hdescribes.start_line ▸ ho, hscope⟩

/-- The way up from a node: to nothing, to the innermost function, or to a node of its line. -/
inductive Above (tree : SyntaxTree) (i : Nat) (n : SyntaxNode) (o : Option (Nat × String)) : Prop where
  | root : o = none → tree.ancestors i = [] → Above tree i n o
  | function {k : Nat} {f : SyntaxNode} {name : String} : k < i → tree.get? k = some f → o = some (k, name) →
      f.Covers n.start.line → tree.ancestors i = k :: tree.ancestors k → Above tree i n o
  | beside {p : Nat} {m : SyntaxNode} : p < i → tree.get? p = some m → m.start.line = n.start.line →
      tree.ancestors i = p :: tree.ancestors p → Above tree i n o

theorem Surveyed.above (h : Surveyed rs tree.entries number) (hlinked : SyntaxTree.Linked tree)
    (hi : tree.get? i = some n) (ho : Innermost tree.entries n.start.line o) : Above tree i n o := by
  obtain ⟨r, -, hdescribes⟩ := h.described i _ _ (entry_of_get? hi)
  obtain ⟨o', ho', -, hparent⟩ := hdescribes.inScope
  obtain rfl := ho.unique (hdescribes.start_line ▸ ho')
  have hup := parent?_of_get? hi
  rw [hparent] at hup
  cases hheld : r.held with
  | none =>
    rw [hheld, Option.none_or] at hup
    cases ho with
    | none => exact .root rfl (hlinked.ancestors_of_root hup)
    | @some k _ _ _ hk hcovers =>
      obtain ⟨f, hf, hfe⟩ := exists_get?_of_entry hk
      cases hfe
      exact .function (hlinked.parent_lt i k hup) hf rfl hcovers (hlinked.ancestors_of_child hup)
  | some p =>
    rw [hheld, Option.some_or] at hup
    obtain ⟨e, he, hline⟩ := hdescribes.holder p hheld
    obtain ⟨m, hm, rfl⟩ := exists_get?_of_entry he
    exact .beside (hlinked.parent_lt i p hup) hm (hline.trans hdescribes.start_line.symm)
      (hlinked.ancestors_of_child hup)

/-- The nearest ancestor of a node that starts before a line. -/
def ancestorBefore? (tree : SyntaxTree) (i line : Nat) : Option Nat :=
  (tree.ancestors i).find? fun a => (tree.get? a).any fun m => m.start.line < line

/-- Going up from a node, the first node of an earlier line is the innermost function. -/
theorem Surveyed.ancestorBefore? (h : Surveyed rs tree.entries number) (hlinked : SyntaxTree.Linked tree)
    (hi : tree.get? i = some n) (ho : Innermost tree.entries n.start.line o) :
    ancestorBefore? tree i n.start.line = o.map (·.1) := by
  -- by induction on the number of the node; a node beside it has the same line and a smaller number
  induction i using Nat.strongRecOn generalizing n with
  | ind i ih =>
    unfold Outline.ancestorBefore?
    cases h.above hlinked hi ho with
    | root ho hup =>
      rw [hup, ho]
      rfl
    | function _ hf ho hcovers hup =>
      rw [hup, ho, List.find?_cons_of_pos]
      · rfl
      · rw [hf]
        exact decide_eq_true hcovers.2.1
    | beside hlt hm hline hup =>
      rw [hup, List.find?_cons_of_neg]
      · rw [← hline] at ho ⊢
        exact ih _ hlt hm ho
      · rw [hm, Option.any_some, decide_eq_true_eq]
        exact hline.not_lt

/-- **Scopes are innermost blocks.** Let a node stand on some line. If no function covers the line, the node has no
scope and its ancestors are all on the line. Otherwise it has the name of the last function that does for its scope,
and this function is the nearest of its ancestors on an earlier line. -/
theorem scope_is_innermost (source : String) (hash : Bool) (tree : SyntaxTree) (h : buildTree source hash = .ok tree) :
    ∀ i n, tree.get? i = some n →
      ((∀ f ∈ tree.nodes, ¬f.Covers n.start.line) →
        n.scope = none ∧ ∀ a ∈ tree.ancestors i, ∀ m, tree.get? a = some m → n.start.line ≤ m.start.line) ∧
      ∀ k f, tree.get? k = some f → f.Covers n.start.line →
        (∀ g ∈ tree.nodes, g.Covers n.start.line → g.start.line ≤ f.start.line) →
        (∃ name, f.name = some name ∧ n.scope = some name) ∧ ancestorBefore? tree i n.start.line = some k := by
  intro i n hi
  have hs := surveyed_of_lines h
  obtain ⟨o, ho, hscope⟩ := hs.innermost hi
  have hnearest := hs.ancestorBefore? (linked_of_lines h) hi ho
  cases ho with
  | none hnone =>
    refine ⟨fun _ => ⟨hscope, fun a ha m hm => ?_⟩, fun k f hf hcovers _ => ?_⟩
    · have := List.find?_eq_none.mp hnearest a ha
      rw [hm, Option.any_some, decide_eq_true_eq] at this
      exact not_lt.mp this
    · exact absurd hcovers (hnone _ (List.mem_of_getElem? (entry_of_get? hf)))
  | @some k' f' q name hk' hcovers' hname hlast =>
    obtain ⟨g, hg, hge⟩ := exists_get?_of_entry hk'
    cases hge
    refine ⟨fun hnone => absurd hcovers' (hnone g (Array.mem_of_getElem? hg)), fun k f hf hcovers hmax => ?_⟩
    -- two functions that start on one line are the same
    have hle := hlast k _ (entry_of_get? hf) hcovers
    have hline := hmax g (Array.mem_of_getElem? hg) hcovers'
    obtain rfl : k = k' := by
      by_contra hne
      have hlt := hs.apart_of_lt (entry_of_get? hf) hk' (lt_of_le_of_ne hle hne) hcovers.1 hcovers'.1
      exact absurd hlt hline.not_gt
    cases hf.symm.trans hg
    exact ⟨⟨name, hname, hscope⟩, hnearest⟩

theorem buildTree_line {source : String} (hline : Text.lines source.toList = [line])
    (hcode : Text.allBlank (maskLine hash line).mask = false) :
    buildTree source hash = do
      let cs ← candidates line (maskLine hash line)
      let (tree, placed) ← (cs.foldr (stableInsert Candidate.before) []).foldlM (place line [] 1 none) (.empty, [])
      return link placed.reverse tree := by
  rw [buildTree, hline, buildFrom]
  simp only [hcode, Bool.false_eq_true, if_false, addLine, bind_assoc]
  cases candidates line (maskLine hash line) with
  | error e => rfl
  | ok cs =>
    simp only [mergeSort_eq_foldr Candidate.before_trans Candidate.before_total]
    cases (cs.foldr (stableInsert Candidate.before) []).foldlM (place line [] 1 none) (.empty, []) <;> rfl

theorem exists_tree_of_any {source : String} {p : SyntaxTree → Bool}
    (h : (buildTree source hash).toOption.any p = true) : ∃ tree, buildTree source hash = .ok tree ∧ p tree = true := by
  cases hbuild : buildTree source hash with
  | error e =>
    rw [hbuild] at h
    cases h
  | ok tree =>
    rw [hbuild] at h
    exact ⟨tree, rfl, h⟩

/-- A call after a function in a function has the scope of the outer one. -/
theorem scope_is_innermost_after_inner :
    ∃ tree n f, buildTree "def f():\n  def g():\n    h()\n  k()\n" true = .ok tree ∧ tree.get? 3 = some n ∧
      tree.get? 0 = some f ∧ f.Covers n.start.line ∧
      (∃ name, f.name = some name ∧ n.scope = some name) ∧ ancestorBefore? tree 3 n.start.line = some 0 := by
  have hrun : (buildTree "def f():\n  def g():\n    h()\n  k()\n" true).toOption.any (fun tree =>
      (tree.get? 3).any fun n => (tree.get? 0).any fun f => decide (f.Covers n.start.line ∧
        ∀ g ∈ tree.nodes.toList, g.Covers n.start.line → g.start.line ≤ f.start.line)) = true := by
    decide +kernel
  obtain ⟨tree, htree, hrun⟩ := exists_tree_of_any hrun
  obtain ⟨n, hn, hrun⟩ := (Option.any_eq_true _ _).mp hrun
  obtain ⟨f, hf, hrun⟩ := (Option.any_eq_true _ _).mp hrun
  obtain ⟨hcovers, hmax⟩ := of_decide_eq_true hrun
  refine ⟨tree, n, f, htree, hn, hf, hcovers, ?_⟩
  exact (scope_is_innermost _ _ tree htree 3 n hn).2 0 f hf hcovers fun g hg => hmax g (Array.mem_toList_iff.mpr hg)

theorem stop_le_of_mem_ancestors (hlinked : SyntaxTree.Linked tree) (h : HoldsChildren tree) (hi : tree.get? i = some n)
    (hf : tree.get? k = some f) (hk : k ∈ tree.ancestors i) :
    ∃ stop stop', n.stop = some stop ∧ f.stop = some stop' ∧ stop.pos ≤ stop'.pos := by
  induction i using Nat.strongRecOn generalizing n with
  | ind i ih =>
    cases hparent : n.parent with
    | none =>
      rw [hlinked.ancestors_of_root ((parent?_of_get? hi).trans hparent)] at hk
      cases hk
    | some p =>
      rw [hlinked.ancestors_of_child ((parent?_of_get? hi).trans hparent)] at hk
      obtain ⟨hlt, m, stop, stop', hm, -, hstop, hstop', hle⟩ := h i n p hi hparent
      rcases List.mem_cons.mp hk with rfl | hk
      · cases hf.symm.trans hm
        exact ⟨stop, stop', hstop, hstop', hle⟩
      · obtain ⟨s, s', hs, hs', hle'⟩ := ih p hlt hm hk
        cases hs.symm.trans hstop'
        exact ⟨stop, s', hstop, hs', hle.trans hle'⟩

/-- The functions above a node, on earlier lines, are those that cover its line. -/
theorem mem_ancestors_iff_covers (hs : Surveyed rs tree.entries number) (hlinked : SyntaxTree.Linked tree)
    (hi : tree.get? i = some n) (hf : tree.get? k = some f) (hk : f.kind = "FunctionDeclaration")
    (hlt : f.start.line < n.start.line) : k ∈ tree.ancestors i ↔ f.Covers n.start.line := by
  induction i using Nat.strongRecOn generalizing n with
  | ind i ih =>
    obtain ⟨o, ho, -⟩ := hs.innermost hi
    cases hs.above hlinked hi ho with
    | root hnone hup =>
      rw [hup]
      cases hnone
      cases ho with
      | none hnone => exact iff_of_false List.not_mem_nil (hnone _ (List.mem_of_getElem? (entry_of_get? hf)))
    | beside hp hm hline hup =>
      rw [hup, List.mem_cons, ← hline]
      rw [← hline] at hlt
      refine (or_iff_right ?_).trans (ih _ hp hm hlt)
      rintro rfl
      cases hf.symm.trans hm
      exact hlt.false
    | @function k' g name hlt' hg hsome hcovers hup =>
      obtain ⟨hgk, hline, stop, hstop, hle⟩ := hcovers
      cases hsome
      rw [hup, List.mem_cons]
      constructor
      · rintro (rfl | hmem)
        · cases hf.symm.trans hg
          exact ⟨hk, hlt, stop, hstop, hle⟩
        · -- the inner function ends within the outer one
          obtain ⟨s, stop', hs, hstop', hpos⟩ :=
            stop_le_of_mem_ancestors hlinked hs.nested.holdsChildren hg hf hmem
          cases hs.symm.trans hstop
          have := Location.pos_le_iff.mp hpos
          exact ⟨hk, hlt, stop', hstop', by omega⟩
      · rintro ⟨-, -, stop', hstop', hle'⟩
        cases ho with
        | some _ _ _ hlast =>
          rcases (hlast k _ (entry_of_get? hf) ⟨hk, hlt, stop', hstop', hle'⟩).eq_or_lt with heq | hlt''
          · exact .inl heq
          · have hbefore := hs.apart_of_lt (entry_of_get? hf) (entry_of_get? hg) hlt'' hk hgk
            exact .inr ((ih k' hlt' hg hbefore).mpr ⟨hk, hbefore, stop', hstop', hline.le.trans hle'⟩)

end Ancestors

end Outline

end SourceAudit
