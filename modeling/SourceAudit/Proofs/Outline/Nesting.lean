import SourceAudit.Proofs.Location
import SourceAudit.Proofs.Outline.Block
import SourceAudit.Proofs.Outline.Declaration
import SourceAudit.Proofs.SyntaxTree

/-!
# Built trees are well nested

* `WellNested es` : the entries of a tree start one after the other, and each ends within its parent;
* `Stops line rest number c stop` : where the node of a candidate ends;
* `Encloses es line rest number f` : the line belongs to the block of the function `f`;
* `place_yields`, `placeAll_yields` : a candidate, and all candidates of a line, keep the tree well nested;
* `OpenAt es number lines f` : the function `f` has ended, or its block ends in `lines`;
* `addLine_yields`, `buildFrom_yields` : a line, and all lines, keep the tree well nested;
* `buildTree_well_nested` : so the nodes of a built tree are in document order and lie in their parents.
-/

namespace SourceAudit.Outline

open Text (byteLength)

/-! ## Nesting -/

def EndsWithin (n m : NodeSpec) : Prop := ∃ a b, n.stop = some a ∧ m.stop = some b ∧ a.pos ≤ b.pos

/-- The entries start one after the other; a parent comes before its children, which end within it. -/
structure WellNested (es : List (NodeSpec × Option Nat)) : Prop where
  ordered : es.Pairwise fun a b => a.1.start.pos ≤ b.1.start.pos
  nested : ∀ (i : Nat) (n : NodeSpec) (p : Nat), es[i]? = some (n, some p) →
    p < i ∧ ∃ m q, es[p]? = some (m, q) ∧ EndsWithin n m

theorem wellNested_nil : WellNested [] := ⟨.nil, nofun⟩

/-- One more entry, not before the others and within its parent. -/
theorem WellNested.append {es : List (NodeSpec × Option Nat)} {n : NodeSpec} {parent : Option Nat} (h : WellNested es)
    (hstart : ∀ e ∈ es, e.1.start.pos ≤ n.start.pos)
    (hparent : ∀ p, parent = some p → ∃ m q, es[p]? = some (m, q) ∧ EndsWithin n m) :
    WellNested (es ++ [(n, parent)]) := by
  constructor
  · refine List.pairwise_append.mpr ⟨h.ordered, List.pairwise_singleton _ _, fun e he e' he' => ?_⟩
    obtain rfl := List.mem_singleton.mp he'
    exact hstart e he
  · intro i n' p hi
    -- a parent is among the old entries, whether its child is new or not
    have hkeep {p : Nat} {e : NodeSpec × Option Nat} (hp : es[p]? = some e) : (es ++ [(n, parent)])[p]? = some e := by
      rw [List.getElem?_append_left (List.getElem?_eq_some_iff.mp hp).1, hp]
    by_cases hlt : i < es.length
    · rw [List.getElem?_append_left hlt] at hi
      obtain ⟨hpi, m, q, hp, hends⟩ := h.nested i n' p hi
      exact ⟨hpi, m, q, hkeep hp, hends⟩
    · rw [List.getElem?_append_right (Nat.le_of_not_lt hlt), List.getElem?_singleton] at hi
      split at hi
      · rename_i he
        cases hi
        obtain ⟨m, q, hp, hends⟩ := hparent p rfl
        have := (List.getElem?_eq_some_iff.mp hp).1
        exact ⟨by omega, m, q, hkeep hp, hends⟩
      · cases hi

/-! ## Columns -/

variable {line : List Char} {rest : List (List Char)} {number : Nat}

theorem columnOf_ok_iff {n column : Nat} :
    columnOf line n = .ok column ↔ ∃ a b, line = a ++ b ∧ byteLength a = n ∧ column = a.length + 1 := by
  have hiff : columnOf line n = .ok column ↔ Text.columnAt? line n = some column := by
    rw [columnOf]
    split <;> simp_all
  rw [hiff, Text.columnAt?, Option.map_eq_some_iff]
  constructor
  · rintro ⟨a, ha, rfl⟩
    obtain ⟨b, hab, hn⟩ := Text.takeBytes?_eq_some_iff.mp ha
    exact ⟨a, b, hab, hn, rfl⟩
  · rintro ⟨a, b, hab, hn, rfl⟩
    exact ⟨a, Text.takeBytes?_eq_some_iff.mpr ⟨b, hab, hn⟩, rfl⟩

theorem columnOf_le {n column : Nat} (h : columnOf line n = .ok column) : column ≤ line.length + 1 := by
  obtain ⟨a, b, rfl, -, rfl⟩ := columnOf_ok_iff.mp h
  rw [List.length_append]
  omega

theorem columnOf_mono {n n' column column' : Nat} (h : columnOf line n = .ok column)
    (h' : columnOf line n' = .ok column') (hle : n ≤ n') : column ≤ column' := by
  obtain ⟨a, b, hab, rfl, rfl⟩ := columnOf_ok_iff.mp h
  obtain ⟨a', b', hab', rfl, rfl⟩ := columnOf_ok_iff.mp h'
  obtain ⟨tail, rfl, -⟩ := Text.split_le (hab.symm.trans hab') hle
  rw [List.length_append]
  omega

/-! ## Ends of nodes -/

/-- Where the node of a candidate ends: on the same line, or with the block of a function. -/
inductive Stops (line : List Char) (rest : List (List Char)) (number : Nat) (c : Candidate) : Location → Prop where
  | line {column : Nat} : columnOf line c.span.stop = .ok column → Stops line rest number c ⟨number, column⟩
  | block {k : Nat} {last : List Char} : c.kind = .functionDeclaration → Closes (indentation line) rest k last →
      Stops line rest number c ⟨number + (k + 1), last.length + 1⟩

/-- The text of a candidate and where it ends: a function ends on its line or with its block, all else on its line. -/
theorem extent_cases {c : Candidate} : Yields (extent line rest number c) fun r =>
    (c.kind ≠ .functionDeclaration ∧ ∃ w column, cut line c.span = .ok w ∧ columnOf line c.span.stop = .ok column ∧
      r = (String.ofList w, ⟨number, column⟩)) ∨
    c.kind = .functionDeclaration ∧ ∃ head, cut line ⟨c.span.start, byteLength line⟩ = .ok head ∧
      ((∃ column, columnOf line c.span.stop = .ok column ∧ r = (String.ofList head, ⟨number, column⟩)) ∨
      ∃ front last, blockLines line rest = front ++ [last] ∧
        r = (Text.joinLines ((head :: (front ++ [last])).map String.ofList),
          ⟨number + (front.length + 1), last.length + 1⟩)) := by
  rw [extent.eq_def]
  split
  · rename_i hk
    refine .after fun head hhead => ?_
    dsimp only
    rcases List.eq_nil_or_concat (blockLines line rest) with hblock | ⟨front, last, hblock⟩
    · rw [hblock]
      refine .after fun column hcolumn => .ok (.inr ⟨hk, head, hhead, .inl ⟨column, hcolumn, ?_⟩⟩)
      simp [Text.joinLines]
    · rw [List.concat_eq_append] at hblock
      rw [hblock, List.getLast?_concat]
      refine .ok (.inr ⟨hk, head, hhead, .inr ⟨front, last, rfl, ?_⟩⟩)
      rw [List.length_append, List.length_singleton]
  · rename_i hk
    refine .after fun text htext => .after fun column hcolumn => .ok (.inl ⟨hk, ?_⟩)
    obtain ⟨w, hw, rfl⟩ := textAt_ok_iff.mp htext
    exact ⟨w, column, hw, hcolumn, rfl⟩

theorem extent_stops {c : Candidate} : Yields (extent line rest number c) fun r => Stops line rest number c r.2 := by
  refine extent_cases.mono fun r hr => ?_
  obtain ⟨-, w, column, -, hcolumn, rfl⟩ | ⟨hk, head, -, ⟨column, hcolumn, rfl⟩ | ⟨front, last, hblock, rfl⟩⟩ := hr
  · exact .line hcolumn
  · exact .line hcolumn
  · obtain ⟨k, hlen, hcloses⟩ := closes_of_getLast? (show (blockLines line rest).getLast? = some last by simp [hblock])
    obtain rfl : front.length = k := by simpa [hblock] using hlen
    exact .block hk hcloses

def StartsAt (line : List Char) (number : Nat) (c : Candidate) (n : NodeSpec) : Prop :=
  ∃ column, columnOf line c.span.start = .ok column ∧ n.start = ⟨number, column⟩

theorem nodeSpec_yields {c : Candidate} {scope : Option String} :
    Yields (nodeSpec line rest number scope c) fun n =>
      StartsAt line number c n ∧ ∃ stop, n.stop = some stop ∧ Stops line rest number c stop := by
  refine .after fun column hcolumn => extent_stops.bind fun r hr => ?_
  exact .ok ⟨⟨column, hcolumn, rfl⟩, r.2, rfl, hr⟩

/-- The line belongs to the block of a function, whose node ends with the block. -/
def Encloses (es : List (NodeSpec × Option Nat)) (line : List Char) (rest : List (List Char)) (number : Nat)
    (f : OpenFunction) : Prop :=
  ∃ m q indent k last, es[f.id]? = some (m, q) ∧ m.stop = some ⟨number + k, last.length + 1⟩ ∧
    Closes indent (line :: rest) k last

theorem Stops.within_block {c : Candidate} {stop : Location} {indent k : Nat} {last : List Char}
    (h : Stops line rest number c stop) (hcloses : Closes indent (line :: rest) k last)
    (hfirst : c.kind = .functionDeclaration → ∃ d tail, Text.trimStart line = d :: tail ∧ closesBracket d = false) :
    stop.pos ≤ (Location.mk (number + k) (last.length + 1)).pos := by
  rw [Location.pos_le_iff]
  cases h with
  | line hcolumn =>
    have := columnOf_le hcolumn
    cases k with
    | zero =>
      cases hcloses.2
      exact .inr ⟨rfl, this⟩
    | succ k => exact .inl (by dsimp only; omega)
  | block hk hinner =>
    obtain ⟨d, tail, hd, hclose⟩ := hfirst hk
    obtain ⟨hle, heq⟩ := hcloses.inner hd hclose hinner
    rcases Nat.lt_or_eq_of_le hle with hlt | he
    · exact .inl (by dsimp only; omega)
    · rw [heq he]
      exact .inr ⟨by dsimp only; omega, Nat.le_refl _⟩

/-- A node that is no function ends within a node of the same line whose span holds its own. -/
theorem Stops.within_span {c p : Candidate} {stop stop' : Location} (h : Stops line rest number c stop)
    (h' : Stops line rest number p stop') (hk : c.kind ≠ .functionDeclaration) (hholds : p.span.holds c.span = true) :
    stop.pos ≤ stop'.pos := by
  rw [Location.pos_le_iff]
  cases h with
  | line hcolumn =>
    cases h' with
    | line hcolumn' =>
      simp only [Span.holds, Bool.and_eq_true, decide_eq_true_eq] at hholds
      exact .inr ⟨rfl, columnOf_mono hcolumn hcolumn' hholds.2⟩
    | block _ _ => exact .inl (by dsimp only; omega)
  | block hfun _ => exact absurd hfun hk

/-! ## Nodes of a line -/

/-- The nodes so far are well nested, those of this line are nodes of its candidates, and those of other lines come
before. -/
structure Placing (line : List Char) (rest : List (List Char)) (number : Nat) (state : SyntaxTree × List Placed) :
    Prop where
  nested : WellNested state.1.entries
  starts : ∀ e ∈ state.1.entries, e.1.start.line < number ∨ ∃ p ∈ state.2, StartsAt line number p.candidate e.1
  stops : ∀ p ∈ state.2, ∃ n q stop, state.1.entries[p.id]? = some (n, q) ∧ n.stop = some stop ∧
    Stops line rest number p.candidate stop

theorem getElem?_of_extends {es es' : List (NodeSpec × Option Nat)} (h : es <+: es') {i : Nat}
    {e : NodeSpec × Option Nat} (hi : es[i]? = some e) : es'[i]? = some e := by
  obtain ⟨tail, rfl⟩ := h
  rw [List.getElem?_append_left (List.getElem?_eq_some_iff.mp hi).1, hi]

theorem Encloses.mono {es es' : List (NodeSpec × Option Nat)} {f : OpenFunction} (h : Encloses es line rest number f)
    (hes : es <+: es') : Encloses es' line rest number f := by
  obtain ⟨m, q, indent, k, last, hm, hstop, hcloses⟩ := h
  exact ⟨m, q, indent, k, last, getElem?_of_extends hes hm, hstop, hcloses⟩

/-- A candidate that comes after those of the line so far, and is no function unless it is the first, keeps the tree
well nested. -/
theorem place_yields {tree : SyntaxTree} {placed : List Placed} {enclosing : Option OpenFunction} {c : Candidate}
    (h : Placing line rest number (tree, placed))
    (hafter : ∀ p ∈ placed, p.candidate.span.start ≤ c.span.start ∧ c.kind ≠ .functionDeclaration)
    (hfirst : c.kind = .functionDeclaration → ∃ d tail, Text.trimStart line = d :: tail ∧ closesBracket d = false)
    (henclosing : ∀ f, enclosing = some f → Encloses tree.entries line rest number f) :
    Yields (place line rest number enclosing (tree, placed) c) fun state =>
      Placing line rest number state ∧ tree.entries <+: state.1.entries ∧ state.2 = ⟨c, tree.size⟩ :: placed := by
  refine nodeSpec_yields.bind fun n ⟨⟨column, hcolumn, hstart⟩, stop, hstop, hstops⟩ => .ok ?_
  dsimp only
  rw [SyntaxTree.entries_add]
  refine ⟨⟨?_, ?_, ?_⟩, List.prefix_append _ _, rfl⟩
  · rw [SyntaxTree.entries_add]
    refine h.nested.append (fun e he => ?_) (fun p hp => ?_)
    · -- the other nodes of the line start before, and those of other lines on earlier ones
      rw [hstart, Location.pos_le_iff]
      rcases h.starts e he with hlt | ⟨p, hp, column', hcolumn', hstart'⟩
      · exact .inl hlt
      · rw [hstart']
        exact .inr ⟨rfl, columnOf_mono hcolumn' hcolumn (hafter p hp).1⟩
    · rcases Option.or_eq_some_iff.mp hp with hp | ⟨-, hp⟩
      · obtain ⟨pl, hfind, rfl⟩ := Option.map_eq_some_iff.mp hp
        have hmem := List.mem_of_find?_eq_some hfind
        have hholds : pl.candidate.span.holds c.span = true :=
          List.find?_some (p := fun p : Placed => p.candidate.span.holds c.span) hfind
        obtain ⟨m, q, stop', hm, hstop', hstops'⟩ := h.stops pl hmem
        refine ⟨m, q, hm, stop, stop', hstop, hstop', ?_⟩
        exact hstops.within_span hstops' (hafter pl hmem).2 hholds
      · obtain ⟨f, hf, rfl⟩ := Option.map_eq_some_iff.mp hp
        obtain ⟨m, q, indent, k, last, hm, hstop', hcloses⟩ := henclosing f hf
        exact ⟨m, q, hm, stop, _, hstop, hstop', hstops.within_block hcloses hfirst⟩
  · intro e he
    rw [SyntaxTree.entries_add] at he
    rcases List.mem_append.mp he with he | he
    · rcases h.starts e he with hlt | ⟨p, hp, hs⟩
      · exact .inl hlt
      · exact .inr ⟨p, List.mem_cons_of_mem _ hp, hs⟩
    · obtain rfl := List.mem_singleton.mp he
      exact .inr ⟨_, List.mem_cons_self, column, hcolumn, hstart⟩
  · intro p hp
    rw [SyntaxTree.entries_add]
    rcases List.mem_cons.mp hp with rfl | hp
    · exact ⟨n, _, stop, tree.getElem?_size_append _, hstop, hstops⟩
    · obtain ⟨m, q, stop', hm, hstops'⟩ := h.stops p hp
      exact ⟨m, q, stop', getElem?_of_extends (List.prefix_append _ _) hm, hstops'⟩

/-- The candidates of a line in order keep the tree well nested. -/
theorem placeAll_yields {enclosing : Option OpenFunction} {cs : List Candidate} {tree : SyntaxTree}
    {placed : List Placed} (h : Placing line rest number (tree, placed))
    (hcs : cs.Pairwise fun a b => a.span.start ≤ b.span.start ∧ b.kind ≠ .functionDeclaration)
    (hafter : ∀ p ∈ placed, ∀ c ∈ cs, p.candidate.span.start ≤ c.span.start ∧ c.kind ≠ .functionDeclaration)
    (hfirst : ∀ c ∈ cs, c.kind = .functionDeclaration →
      ∃ d tail, Text.trimStart line = d :: tail ∧ closesBracket d = false)
    (henclosing : ∀ f, enclosing = some f → Encloses tree.entries line rest number f) :
    Yields (cs.foldlM (place line rest number enclosing) (tree, placed)) fun state =>
      Placing line rest number state ∧ tree.entries <+: state.1.entries := by
  induction cs generalizing tree placed with
  | nil => exact .ok ⟨h, List.prefix_rfl⟩
  | cons c cs ih =>
    obtain ⟨hc, hcs⟩ := List.pairwise_cons.mp hcs
    rw [List.foldlM_cons]
    refine (place_yields h (fun p hp => hafter p hp c List.mem_cons_self) (hfirst c List.mem_cons_self)
      henclosing).bind ?_
    rintro ⟨tree', placed'⟩ ⟨hplacing, hprefix, rfl⟩
    have hafter' : ∀ p ∈ ⟨c, tree.size⟩ :: placed, ∀ d ∈ cs,
        p.candidate.span.start ≤ d.span.start ∧ d.kind ≠ .functionDeclaration := by
      intro p hp d hd
      rcases List.mem_cons.mp hp with rfl | hp
      · exact hc d hd
      · exact hafter p hp d (List.mem_cons_of_mem c hd)
    refine (ih hplacing hcs hafter' (fun d hd => hfirst d (List.mem_cons_of_mem c hd))
      fun f hf => (henclosing f hf).mono hprefix).mono fun state hstate => ?_
    exact ⟨hstate.1, hprefix.trans hstate.2⟩

@[simp] theorem entries_link (placed : List Placed) (tree : SyntaxTree) :
    (link placed tree).entries = tree.entries := by
  refine SyntaxTree.entries_foldl (fun tree p => ?_) placed tree
  dsimp only
  split
  · exact SyntaxTree.entries_foldl (fun tree target => tree.entries_addArgument p.id target) _ _
  · split
    · exact SyntaxTree.entries_setProperty ..
    · rfl
  · rfl

/-! ## Open functions -/

/-- The function has ended before a line, or its block ends in the lines from there on. -/
def OpenAt (es : List (NodeSpec × Option Nat)) (number : Nat) (lines : List (List Char)) (f : OpenFunction) : Prop :=
  ∃ m q stop, es[f.id]? = some (m, q) ∧ m.stop = some stop ∧ stop.line = f.endLine ∧
    (number ≤ f.endLine → ∃ indent k last, Closes indent lines k last ∧ stop = ⟨number + k, last.length + 1⟩)

theorem OpenAt.mono {es es' : List (NodeSpec × Option Nat)} {lines : List (List Char)} {f : OpenFunction}
    (h : OpenAt es number lines f) (hes : es <+: es') : OpenAt es' number lines f := by
  obtain ⟨m, q, stop, hm, h⟩ := h
  exact ⟨m, q, stop, getElem?_of_extends hes hm, h⟩

theorem OpenAt.encloses {es : List (NodeSpec × Option Nat)} {f : OpenFunction} (h : OpenAt es number (line :: rest) f)
    (hf : number ≤ f.endLine) : Encloses es line rest number f := by
  obtain ⟨m, q, stop, hm, hstop, -, hopen⟩ := h
  obtain ⟨indent, k, last, hcloses, rfl⟩ := hopen hf
  exact ⟨m, q, indent, k, last, hm, hstop, hcloses⟩

theorem OpenAt.next {es : List (NodeSpec × Option Nat)} {f : OpenFunction} (h : OpenAt es number (line :: rest) f) :
    OpenAt es (number + 1) rest f := by
  obtain ⟨m, q, stop, hm, hstop, hline, hopen⟩ := h
  refine ⟨m, q, stop, hm, hstop, hline, fun hf => ?_⟩
  obtain ⟨indent, k, last, hcloses, rfl⟩ := hopen (Nat.le_of_succ_le hf)
  cases k with
  | zero =>
    dsimp only at hline
    omega
  | succ k => exact ⟨indent, k, last, hcloses.tail, by rw [Nat.add_right_comm, Nat.add_assoc]⟩

theorem openedBy_openAt {tree : SyntaxTree} {placed : List Placed} {f : OpenFunction}
    (h : Placing line rest number (tree, placed)) (hf : openedBy tree placed = some f) :
    OpenAt tree.entries (number + 1) rest f := by
  obtain ⟨p, hfind, rfl⟩ := Option.map_eq_some_iff.mp hf
  obtain ⟨m, q, stop, hm, hstop, hstops⟩ := h.stops p (List.mem_of_find?_eq_some hfind)
  have hline : (((tree.get? p.id).bind (·.stop)).map (·.line)).getD 0 = stop.line := by
    have hget := tree.getElem?_entries p.id
    rw [show tree.entries[p.id]? = some (m, q) from hm] at hget
    obtain ⟨n, hn, hnm⟩ := Option.map_eq_some_iff.mp hget.symm
    cases hnm
    rw [hn, Option.bind_some, show n.stop = some stop from hstop]
    rfl
  refine ⟨m, q, stop, hm, hstop, hline.symm, fun hle => ?_⟩
  dsimp only at hle
  rw [hline] at hle
  cases hstops with
  | line _ =>
    dsimp only at hle
    omega
  | @block k last _ hcloses => exact ⟨_, k, last, hcloses, by rw [Nat.add_right_comm, Nat.add_assoc]⟩

/-! ## Whole texts -/

theorem addLine_yields {hash : Bool} {tree : SyntaxTree} {enclosing : Option OpenFunction} (h : WellNested tree.entries)
    (hstarts : ∀ e ∈ tree.entries, e.1.start.line < number)
    (henclosing : ∀ f, enclosing = some f → Encloses tree.entries line rest number f) :
    Yields (addLine tree line (maskLine hash line) rest number enclosing) fun r =>
      WellNested r.1.entries ∧ (∀ e ∈ r.1.entries, e.1.start.line < number + 1) ∧ tree.entries <+: r.1.entries ∧
        ∀ f, r.2 = some f → OpenAt r.1.entries (number + 1) rest f := by
  refine .after fun cs hcs => ?_
  have hplacing : Placing line rest number (tree, []) := ⟨h, fun e he => .inl (hstarts e he), nofun⟩
  have hfirst : ∀ c ∈ cs.mergeSort Candidate.before, c.kind = .functionDeclaration →
      ∃ d tail, Text.trimStart line = d :: tail ∧ closesBracket d = false := by
    intro c hc hk
    obtain ⟨m, hm⟩ := find?_of_function hcs ((List.mergeSort_perm cs _).mem_iff.mp hc) hk
    exact function_first (Regex.find?_matches hm)
  refine (placeAll_yields hplacing (ordered_candidates hcs) nofun hfirst henclosing).bind ?_
  rintro ⟨tree', placed⟩ ⟨hplaced, hprefix⟩
  refine .ok ?_
  dsimp only
  rw [entries_link]
  refine ⟨hplaced.nested, fun e he => ?_, hprefix, fun f hf => openedBy_openAt hplaced hf⟩
  rcases hplaced.starts e he with hlt | ⟨p, -, column, -, hstart⟩
  · exact Nat.lt_succ_of_lt hlt
  · rw [hstart]
    exact Nat.lt_succ_self number

theorem buildFrom_yields {hash : Bool} {tree : SyntaxTree} {functions : List OpenFunction} {lines : List (List Char)}
    (h : WellNested tree.entries) (hstarts : ∀ e ∈ tree.entries, e.1.start.line < number)
    (hopen : ∀ f ∈ functions, OpenAt tree.entries number lines f) :
    Yields (buildFrom hash tree functions number lines) fun t => WellNested t.entries := by
  induction lines generalizing tree functions number with
  | nil => exact .ok h
  | cons line rest ih =>
    have hopen' : ∀ f ∈ functions.dropWhile (·.endLine < number), OpenAt tree.entries number (line :: rest) f :=
      fun f hf => hopen f ((List.dropWhile_sublist _).subset hf)
    rw [buildFrom]
    dsimp only
    split
    · exact ih h (fun e he => Nat.lt_succ_of_lt (hstarts e he)) fun f hf => (hopen' f hf).next
    · have henclosing : ∀ f, (functions.dropWhile (·.endLine < number)).head? = some f →
          Encloses tree.entries line rest number f := by
        intro f hf
        have hlive := List.head?_dropWhile_not (fun f : OpenFunction => decide (f.endLine < number)) functions
        rw [hf] at hlive
        refine (hopen' f (List.mem_of_head? hf)).encloses ?_
        simpa using hlive
      refine (addLine_yields h hstarts henclosing).bind ?_
      rintro ⟨tree', opened⟩ ⟨hnested, hstarts', hprefix, hopened⟩
      refine ih hnested hstarts' fun f hf => ?_
      rcases List.mem_append.mp hf with hf | hf
      · exact hopened f (Option.mem_toList.mp hf)
      · exact (hopen' f hf).next.mono hprefix

/-- Nodes that were added later do not start earlier. -/
def InDocumentOrder (tree : SyntaxTree) : Prop :=
  ∀ i j a b, i ≤ j → tree.get? i = some a → tree.get? j = some b → a.start.pos ≤ b.start.pos

/-- Every parent was added before its children, starts no later than they do and ends no earlier. -/
def HoldsChildren (tree : SyntaxTree) : Prop :=
  ∀ i n p, tree.get? i = some n → n.parent = some p →
    p < i ∧ ∃ m stop stop', tree.get? p = some m ∧ m.start.pos ≤ n.start.pos ∧
      n.stop = some stop ∧ m.stop = some stop' ∧ stop.pos ≤ stop'.pos

theorem WellNested.inDocumentOrder {tree : SyntaxTree} (h : WellNested tree.entries) : InDocumentOrder tree := by
  intro i j a b hle ha hb
  rcases Nat.lt_or_eq_of_le hle with hlt | rfl
  · have ha' : tree.entries[i]? = some (a.toNodeSpec, a.parent) := by rw [tree.getElem?_entries, ha]; rfl
    have hb' : tree.entries[j]? = some (b.toNodeSpec, b.parent) := by rw [tree.getElem?_entries, hb]; rfl
    obtain ⟨hi, hai⟩ := List.getElem?_eq_some_iff.mp ha'
    obtain ⟨hj, hbj⟩ := List.getElem?_eq_some_iff.mp hb'
    have := List.pairwise_iff_getElem.mp h.ordered i j hi hj hlt
    rwa [hai, hbj] at this
  · cases ha.symm.trans hb
    exact le_refl _

theorem WellNested.holdsChildren {tree : SyntaxTree} (h : WellNested tree.entries) : HoldsChildren tree := by
  intro i n p hi hp
  have hentry : tree.entries[i]? = some (n.toNodeSpec, some p) := by rw [tree.getElem?_entries, hi, ← hp]; rfl
  obtain ⟨hlt, m, q, hm, stop, stop', hstop, hstop', hle⟩ := h.nested i n.toNodeSpec p hentry
  rw [tree.getElem?_entries] at hm
  obtain ⟨parent, hparent, he⟩ := Option.map_eq_some_iff.mp hm
  cases he
  have hstart := h.inDocumentOrder p i parent n (Nat.le_of_lt hlt) hparent hi
  exact ⟨hlt, parent, stop, stop', hparent, hstart, hstop, hstop', hle⟩

/-- **The nodes of a built tree are in document order, and every node lies in its parent**, on the same line or in a
function from an earlier one. -/
theorem buildTree_well_nested (source : String) (hash : Bool) (tree : SyntaxTree)
    (h : buildTree source hash = .ok tree) : InDocumentOrder tree ∧ HoldsChildren tree := by
  have hnested : WellNested tree.entries :=
    @buildFrom_yields 1 hash .empty [] _ wellNested_nil (by simp) nofun tree h
  exact ⟨hnested.inDocumentOrder, hnested.holdsChildren⟩

theorem exists_tree_of_no_equals (source : String) (hash : Bool)
    (h : ∀ line ∈ Text.lines source.toList, '=' ∉ (maskLine hash line).mask) :
    ∃ tree, buildTree source hash = .ok tree := by
  have hlines : ∀ line ∈ Text.lines source.toList, ¬Breaks hash line := by
    rintro line hl ⟨-, -, -, m, -, -, hm, -⟩
    obtain ⟨-, -, a, gap, b, -, -, -, -, hmask, -⟩ := assignment_match (Regex.find?_matches hm)
    exact h line hl (by rw [hmask]; simp)
  obtain ⟨tree, htree, -⟩ := buildFrom_gives hlines .empty [] 1
  exact ⟨tree, htree⟩

/-- A function in a function, with a blank line, a closing bracket, an unfinished string and a call in a call. -/
theorem nested_functions_well_nested :
    ∃ tree, buildTree "def f(a):\n  def g(b):\n\n    h(a, k(b.c))\n  )\n  g('x, a)\n" true = .ok tree ∧
      InDocumentOrder tree ∧ HoldsChildren tree := by
  obtain ⟨tree, htree⟩ :=
    exists_tree_of_no_equals "def f(a):\n  def g(b):\n\n    h(a, k(b.c))\n  )\n  g('x, a)\n" true (by decide +kernel)
  exact ⟨tree, htree, buildTree_well_nested _ _ tree htree⟩

end SourceAudit.Outline
