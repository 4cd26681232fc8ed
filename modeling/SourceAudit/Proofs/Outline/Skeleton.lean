import SourceAudit.Proofs.Outline.Import

/-!
# Strings and comments do not shape the tree

* `SyntaxTree.skeleton` : a tree without the texts and values of its nodes and the names of imports;
* `Parallel R x y` : two computations fail with the same error, or both succeed with related results;
* `statement?_alike`, `candidates_alike` : alike lines have candidates that differ in values and names of imports only;
* `link_skeleton`, `openedBy_skeleton` : links and open functions depend on skeletons only;
* `place_alike`, `addLine_alike`, `buildFrom_alike` : so alike lines add the same skeletons;
* `skeleton_of_disguises` : a disguised source has a tree with the same skeleton, or fails with the same error.
-/

namespace SourceAudit

open Outline (NodeKind)

/-! ## Skeletons of trees -/

/-- What a node was made of, without its text and value and without the name of an import. -/
def NodeSpec.skeleton (s : NodeSpec) : NodeSpec :=
  { s with name := if s.kind = NodeKind.importStatement.name then none else s.name, text := "", value := none }

/-- A node without its text and value and without the name of an import. -/
def SyntaxNode.skeleton (n : SyntaxNode) : SyntaxNode := { n with toNodeSpec := n.toNodeSpec.skeleton }

namespace SyntaxTree

/-- A tree without the texts and values of its nodes and without the names of imports. -/
def skeleton (t : SyntaxTree) : SyntaxTree := { t with nodes := t.nodes.map SyntaxNode.skeleton }

@[simp] theorem size_skeleton (t : SyntaxTree) : t.skeleton.size = t.size := Array.size_map

@[simp] theorem get?_skeleton (t : SyntaxTree) (id : Nat) : t.skeleton.get? id = (t.get? id).map SyntaxNode.skeleton :=
  Array.getElem?_map

/-- A change of a node that leaves alone what a skeleton is without. -/
theorem map_skeleton_modify (nodes : Array SyntaxNode) (id : Nat) {f : SyntaxNode → SyntaxNode}
    (hf : ∀ n, (f n).skeleton = f n.skeleton) :
    (nodes.modify id f).map SyntaxNode.skeleton = (nodes.map SyntaxNode.skeleton).modify id f := by
  refine Array.ext_getElem? fun i => ?_
  simp only [Array.getElem?_map, Array.getElem?_modify]
  split
  · cases nodes[i]? with
    | none => rfl
    | some n => exact congrArg some (hf n)
  · rfl

theorem skeleton_add (t : SyntaxTree) (spec : NodeSpec) (parent : Option Nat) :
    (t.add spec parent).skeleton = t.skeleton.add spec.skeleton parent := by
  cases parent with
  | none => simp [add, skeleton, SyntaxNode.skeleton, size]
  | some p =>
    simp only [add, skeleton, Array.map_push, size, Array.size_map]
    rw [map_skeleton_modify]
    · rfl
    · exact fun _ => rfl

theorem skeleton_addArgument (t : SyntaxTree) (call argument : Nat) :
    (t.addArgument call argument).skeleton = t.skeleton.addArgument call argument := by
  simp only [addArgument, skeleton]
  rw [map_skeleton_modify]
  exact fun _ => rfl

theorem skeleton_setProperty (t : SyntaxTree) (id : Nat) (key : String) (target : Nat) :
    (t.setProperty id key target).skeleton = t.skeleton.setProperty id key target := by
  simp only [setProperty, skeleton]
  rw [map_skeleton_modify]
  exact fun _ => rfl

end SyntaxTree

namespace Outline

/-! ## Two computations side by side -/

/-- Two computations that fail with the same error, or succeed with related results. -/
inductive Parallel {α β : Type} (R : α → β → Prop) : Except BuildError α → Except BuildError β → Prop where
  | ok {a : α} {b : β} : R a b → Parallel R (.ok a) (.ok b)
  | error (e : BuildError) : Parallel R (.error e) (.error e)

section Parallel

variable {α β γ δ : Type} {R : α → β → Prop} {S : γ → δ → Prop}

theorem Parallel.bind {x : Except BuildError α} {y : Except BuildError β} {f : α → Except BuildError γ}
    {g : β → Except BuildError δ} (h : Parallel R x y) (hf : ∀ a b, R a b → Parallel S (f a) (g b)) :
    Parallel S (x >>= f) (y >>= g) := by
  cases h with
  | ok hab => exact hf _ _ hab
  | error e => exact .error e

theorem Parallel.refl {T : α → α → Prop} (hT : ∀ a, T a a) (x : Except BuildError α) : Parallel T x x := by
  cases x with
  | ok a => exact .ok (hT a)
  | error e => exact .error e

theorem Parallel.after (x : Except BuildError α) {f : α → Except BuildError γ} {g : α → Except BuildError δ}
    (hf : ∀ a, Parallel S (f a) (g a)) : Parallel S (x >>= f) (x >>= g) :=
  (Parallel.refl (fun _ => rfl) x).bind fun a _ hb => hb ▸ hf a

theorem Parallel.mapM {f : γ → Except BuildError α} {g : γ → Except BuildError β} {xs : List γ}
    (h : ∀ x ∈ xs, Parallel R (f x) (g x)) : Parallel (List.Forall₂ R) (xs.mapM f) (xs.mapM g) := by
  induction xs with
  | nil => exact .ok .nil
  | cons x xs ih =>
    rw [List.mapM_cons, List.mapM_cons]
    refine (h x List.mem_cons_self).bind fun a b hab => ?_
    refine (ih fun x hx => h x (List.mem_cons_of_mem _ hx)).bind fun as bs hrest => ?_
    exact .ok (.cons hab hrest)

theorem Parallel.foldlM {T : α → β → Prop} {f : γ → α → Except BuildError γ} {g : δ → β → Except BuildError δ}
    {as : List α} {bs : List β} (h : List.Forall₂ T as bs)
    (step : ∀ s s' a b, S s s' → T a b → Parallel S (f s a) (g s' b)) {s : γ} {s' : δ} (hs : S s s') :
    Parallel S (as.foldlM f s) (bs.foldlM g s') := by
  induction h generalizing s s' with
  | nil => exact .ok hs
  | cons hab _ ih =>
    rw [List.foldlM_cons, List.foldlM_cons]
    exact (step _ _ _ _ hs hab).bind fun _ _ hs => ih hs

theorem Parallel.map_eq {f : α → γ} {g : β → γ} {x : Except BuildError α} {y : Except BuildError β}
    (h : Parallel (fun a b => g b = f a) x y) : y.map g = x.map f := by
  cases h with
  | ok hab => exact congrArg Except.ok hab
  | error e => rfl

end Parallel

/-! ## Candidates of alike lines -/

/-- A candidate without its value and without the name of an import. -/
def Candidate.skeleton (c : Candidate) : Candidate :=
  { c with name := if c.kind = .importStatement then none else c.name, value := none }

/-- Two candidates that differ in their value and the name of an import only. -/
def Candidate.Like (c c' : Candidate) : Prop := c'.skeleton = c.skeleton

theorem forall₂_like_iff {cs cs' : List Candidate} :
    List.Forall₂ Candidate.Like cs cs' ↔ cs'.map Candidate.skeleton = cs.map Candidate.skeleton := by
  rw [← List.forall₂_eq_eq_eq, List.forall₂_map_left_iff, List.forall₂_map_right_iff]
  exact ⟨List.Forall₂.flip, List.Forall₂.flip⟩

section Candidates

variable {hash : Bool} {line line' mask : List Char} {c c' : Candidate}

theorem Candidate.Like.skeleton_eq (h : c.Like c') : c'.skeleton = c.skeleton := h

theorem Candidate.Like.kind_eq (h : c.Like c') : c'.kind = c.kind := congrArg (·.kind) h.skeleton_eq

theorem Candidate.Like.span_eq (h : c.Like c') : c'.span = c.span := congrArg (·.span) h.skeleton_eq

theorem cut_alike (h : Alike hash .code line line') (s : Span) :
    Parallel (fun _ _ => True) (cut line s) (cut line' s) := by
  have hsome := slice?_isSome_sizes h.sizes s.start s.stop
  rw [cut, cut]
  cases hline : Text.slice? line s.start s.stop <;> cases hline' : Text.slice? line' s.start s.stop <;>
    rw [hline, hline'] at hsome
  · exact .error _
  · cases hsome
  · cases hsome
  · exact .ok trivial

theorem textAt_alike (h : Alike hash .code line line') (s : Span) :
    Parallel (fun _ _ => True) (textAt line s) (textAt line' s) := (cut_alike h s).bind fun _ _ _ => .ok trivial

theorem assignmentCandidate_alike (h : Alike hash .code line line') (mask : List Char) (target value : Span) :
    Parallel Candidate.Like (assignmentCandidate line mask target value)
      (assignmentCandidate line' mask target value) := by
  simp only [assignmentCandidate]
  refine Parallel.after _ fun stop => ?_
  refine (cut_alike h _).bind fun _ _ _ => ?_
  refine Parallel.after _ fun name => ?_
  exact .ok rfl

/-- Only the name of an import and the value of an assignment are read off the line itself. -/
theorem statement?_alike (h : Alike hash .code line line') (mask : List Char) :
    Parallel (fun o o' => o'.map Candidate.skeleton = o.map Candidate.skeleton) (statement? line mask)
      (statement? line' mask) := by
  cases hf : functionShape.find? mask with
  | some m =>
    simp only [statement?, hf]
    exact Parallel.after _ fun name => .ok rfl
  | none =>
    have himport := importShape_find?_alike h
    cases hi : importShape.find? line <;> cases hi' : importShape.find? line' <;> rw [hi, hi'] at himport
    · simp only [statement?, hf, hi, hi']
      split
      · split
        · exact (assignmentCandidate_alike h mask _ _).bind fun _ _ hc => .ok (congrArg some hc)
        · exact .ok rfl
      · exact .ok rfl
    · cases himport
    · cases himport
    · -- the names may differ, but both lines have one
      obtain ⟨name, hname, -⟩ := nameAt?_gives fun s => importName_liesIn (s := s) (Regex.find?_matches hi)
      obtain ⟨name', hname', -⟩ := nameAt?_gives fun s => importName_liesIn (s := s) (Regex.find?_matches hi')
      simp only [statement?, hf, hi, hi', hname, hname']
      exact .ok rfl

theorem candidates_alike (h : Alike hash .code line line') (masked : MaskedLine) :
    Parallel (fun cs cs' => cs'.map Candidate.skeleton = cs.map Candidate.skeleton) (candidates line masked)
      (candidates line' masked) := by
  simp only [candidates]
  refine (statement?_alike h _).bind fun statement statement' hstatement => ?_
  refine Parallel.after _ fun calls => Parallel.after _ fun members => ?_
  have hstring (s : Span) : Parallel Candidate.Like (stringCandidate line s) (stringCandidate line' s) :=
    (cut_alike h s).bind fun _ _ _ => .ok rfl
  refine (Parallel.mapM fun s _ => hstring s).bind fun strings strings' hstrings => .ok ?_
  have hlist : statement'.toList.map Candidate.skeleton = statement.toList.map Candidate.skeleton := by
    rw [← Option.toList_map, hstatement, Option.toList_map]
  simp only [List.map_append, hlist, forall₂_like_iff.mp hstrings]

end Candidates

/-! ## Nodes of alike lines -/

section Nodes

variable {hash : Bool} {line line' : List Char} {rest rest' : List (List Char)} {c c' : Candidate}

theorem columnOf_alike (h : Alike hash .code line line') (offset : Nat) :
    columnOf line' offset = columnOf line offset := by
  rw [columnOf, columnOf, columnAt?_sizes h.sizes]

theorem lengths_alike (h : List.Forall₂ (Alike hash .code) rest rest') :
    rest'.map List.length = rest.map List.length := by
  induction h with
  | nil => rfl
  | cons hline _ ih =>
    have := congrArg List.length hline.sizes
    simp only [List.length_map] at this
    rw [List.map_cons, List.map_cons, this, ih]

/-- Alike candidates of alike lines end at the same place. -/
theorem extent_alike (hline : Alike hash .code line line') (hrest : List.Forall₂ (Alike hash .code) rest rest')
    (number : Nat) (hc : c.Like c') :
    Parallel (fun x x' => x'.2 = x.2) (extent line rest number c) (extent line' rest' number c') := by
  rw [extent.eq_def, extent.eq_def, hc.kind_eq, hc.span_eq, byteLength_eq_of_sizes hline.sizes, columnOf_alike hline]
  split
  · refine (cut_alike hline _).bind fun head head' _ => ?_
    have hlengths := lengths_alike (blockLines_alike hline hrest)
    have hlength : (blockLines line' rest').length = (blockLines line rest).length := by
      simpa using congrArg List.length hlengths
    have hlast := congrArg List.getLast? hlengths
    rw [List.getLast?_map, List.getLast?_map] at hlast
    dsimp only
    cases hb : (blockLines line rest).getLast? <;> cases hb' : (blockLines line' rest').getLast? <;>
      rw [hb, hb'] at hlast
    · exact Parallel.after _ fun column => .ok rfl
    · cases hlast
    · cases hlast
    · refine .ok ?_
      simp only [hlength, Option.some.inj hlast]
  · exact (textAt_alike hline _).bind fun _ _ _ => Parallel.after _ fun column => .ok rfl

theorem name_eq_import_iff (kind : NodeKind) : kind.name = NodeKind.importStatement.name ↔ kind = .importStatement := by
  cases kind <;> decide

theorem nodeSpec_alike (hline : Alike hash .code line line') (hrest : List.Forall₂ (Alike hash .code) rest rest')
    (number : Nat) (scope : Option String) (hc : c.Like c') :
    Parallel (fun s s' => s'.skeleton = s.skeleton) (nodeSpec line rest number scope c)
      (nodeSpec line' rest' number scope c') := by
  simp only [nodeSpec, columnOf_alike hline, hc.span_eq]
  refine Parallel.after _ fun column => ?_
  refine (extent_alike hline hrest number hc).bind ?_
  rintro ⟨_, stop⟩ ⟨_, stop'⟩ hstop
  have hname : (if c'.kind = .importStatement then none else c'.name) =
      if c.kind = .importStatement then none else c.name :=
    congrArg (·.name) hc.skeleton_eq
  dsimp only at hstop
  refine .ok ?_
  simp only [NodeSpec.skeleton, name_eq_import_iff, hc.kind_eq, hstop] at hname ⊢
  rw [hname]

/-! ## Placing and linking -/

def Placed.skeleton (p : Placed) : Placed := { p with candidate := p.candidate.skeleton }

theorem find?_skeleton (placed : List Placed) {q : Placed → Bool} (hq : ∀ p : Placed, q p.skeleton = q p) :
    (placed.map Placed.skeleton).find? q = (placed.find? q).map Placed.skeleton := by
  rw [List.find?_map, show q ∘ Placed.skeleton = q from funext hq]

theorem find?_skeleton_id (placed : List Placed) {q : Placed → Bool} (hq : ∀ p : Placed, q p.skeleton = q p) :
    ((placed.map Placed.skeleton).find? q).map (·.id) = (placed.find? q).map (·.id) := by
  rw [find?_skeleton placed hq, Option.map_map]
  rfl

theorem nodeAt?_skeleton (placed : List Placed) : nodeAt? (placed.map Placed.skeleton) = nodeAt? placed :=
  funext fun _ => find?_skeleton_id placed fun _ => rfl

theorem link_skeleton (placed : List Placed) (tree : SyntaxTree) :
    (link placed tree).skeleton = link (placed.map Placed.skeleton) tree.skeleton := by
  rw [link, link, nodeAt?_skeleton, List.foldl_map]
  refine (List.foldl_hom SyntaxTree.skeleton fun tree p => ?_).symm
  simp only [Placed.skeleton, Candidate.skeleton]
  split
  · exact List.foldl_hom SyntaxTree.skeleton fun tree target => (tree.skeleton_addArgument p.id target).symm
  · split
    · exact (tree.skeleton_setProperty _ _ _).symm
    · rfl
  · rfl

/-- The function that a line opens depends on skeletons only. -/
theorem openedBy_skeleton (tree : SyntaxTree) (placed : List Placed) :
    openedBy tree.skeleton (placed.map Placed.skeleton) = openedBy tree placed := by
  rw [openedBy, openedBy, find?_skeleton placed fun _ => rfl]
  cases h : placed.find? fun p => p.candidate.kind = .functionDeclaration with
  | none => rfl
  | some p =>
    -- it is no import, so its skeleton has its name
    have hkind : p.candidate.kind = .functionDeclaration := by simpa using List.find?_some h
    have hstop : ((tree.get? p.id).map SyntaxNode.skeleton).bind (·.stop) = (tree.get? p.id).bind (·.stop) := by
      cases tree.get? p.id <;> rfl
    simp only [Option.map_some, SyntaxTree.get?_skeleton, Placed.skeleton, Candidate.skeleton, hkind, hstop,
      reduceCtorEq, if_false]

/-- Two states of a line with the same skeletons. -/
def SameState (s s' : SyntaxTree × List Placed) : Prop :=
  s'.1.skeleton = s.1.skeleton ∧ s'.2.map Placed.skeleton = s.2.map Placed.skeleton

theorem place_alike (hline : Alike hash .code line line') (hrest : List.Forall₂ (Alike hash .code) rest rest')
    (number : Nat) (enclosing : Option OpenFunction) {s s' : SyntaxTree × List Placed} (hs : SameState s s')
    (hc : c.Like c') :
    Parallel SameState (place line rest number enclosing s c) (place line' rest' number enclosing s' c') := by
  obtain ⟨tree, placed⟩ := s
  obtain ⟨tree', placed'⟩ := s'
  obtain ⟨htree, hplaced⟩ := hs
  dsimp only at htree hplaced
  simp only [place]
  refine (nodeSpec_alike hline hrest number _ hc).bind fun spec spec' hspec => .ok ?_
  have hholder : (placed'.find? fun p => p.candidate.span.holds c'.span).map (·.id) =
      (placed.find? fun p => p.candidate.span.holds c.span).map (·.id) := by
    rw [hc.span_eq, ← find?_skeleton_id placed' fun _ => rfl, hplaced, find?_skeleton_id placed fun _ => rfl]
  have hsize : tree'.size = tree.size := by rw [← SyntaxTree.size_skeleton, htree, SyntaxTree.size_skeleton]
  refine ⟨?_, ?_⟩
  · rw [SyntaxTree.skeleton_add, SyntaxTree.skeleton_add, htree, hspec, hholder]
  · rw [List.map_cons, List.map_cons, hplaced, Placed.skeleton, Placed.skeleton, hsize, hc.skeleton_eq]

theorem ordered_alike {cs cs' : List Candidate} (h : cs'.map Candidate.skeleton = cs.map Candidate.skeleton) :
    List.Forall₂ Candidate.Like (cs.mergeSort Candidate.before) (cs'.mergeSort Candidate.before) := by
  have hmap (cs : List Candidate) :
      (cs.mergeSort Candidate.before).map Candidate.skeleton = (cs.map Candidate.skeleton).mergeSort Candidate.before :=
    List.map_mergeSort fun _ _ _ _ => rfl
  rw [forall₂_like_iff, hmap, hmap, h]

theorem addLine_alike (hline : Alike hash .code line line') (hrest : List.Forall₂ (Alike hash .code) rest rest')
    (masked : MaskedLine) (number : Nat) (enclosing : Option OpenFunction) {tree tree' : SyntaxTree}
    (htree : tree'.skeleton = tree.skeleton) :
    Parallel (fun x x' => x'.1.skeleton = x.1.skeleton ∧ x'.2 = x.2) (addLine tree line masked rest number enclosing)
      (addLine tree' line' masked rest' number enclosing) := by
  simp only [addLine]
  refine (candidates_alike hline masked).bind fun cs cs' hcs => ?_
  have hstart : SameState (tree, []) (tree', []) := ⟨htree, rfl⟩
  refine (Parallel.foldlM (ordered_alike hcs) (fun _ _ _ _ => place_alike hline hrest number enclosing) hstart).bind ?_
  rintro ⟨tree, placed⟩ ⟨tree', placed'⟩ ⟨htree, hplaced⟩
  dsimp only at htree hplaced
  refine .ok ⟨?_, ?_⟩
  · rw [link_skeleton, link_skeleton, htree, List.map_reverse, List.map_reverse, hplaced]
  · rw [← openedBy_skeleton, htree, hplaced, openedBy_skeleton]

end Nodes

/-! ## Whole texts -/

theorem buildFrom_alike {hash : Bool} {tree tree' : SyntaxTree} {functions : List OpenFunction} {number : Nat}
    {lines lines' : List (List Char)} (h : List.Forall₂ (Alike hash .code) lines lines')
    (htree : tree'.skeleton = tree.skeleton) :
    Parallel (fun t t' => t'.skeleton = t.skeleton) (buildFrom hash tree functions number lines)
      (buildFrom hash tree' functions number lines') := by
  induction h generalizing tree tree' functions number with
  | nil => exact .ok htree
  | @cons line line' rest rest' hline hrest ih =>
    rw [buildFrom, buildFrom, maskLine_alike hline]
    split
    · exact ih htree
    · refine (addLine_alike hline hrest _ number _ htree).bind ?_
      rintro ⟨tree, opened⟩ ⟨tree', opened'⟩ ⟨htree, hopened⟩
      dsimp only at htree hopened
      rw [hopened]
      exact ih htree

/-- Strings and comments do not shape the tree: whatever characters they hold, building fails with the same error, or it
gives nodes that agree in everything but texts, values and the names of imports. -/
theorem skeleton_of_disguises (source source' : String) (hash : Bool)
    (h : disguises hash .code source.toList source'.toList = true) :
    (buildTree source' hash).map SyntaxTree.skeleton = (buildTree source hash).map SyntaxTree.skeleton :=
  (buildFrom_alike (lines_alike h) rfl).map_eq

/-- The name of an import, a call in a string and a comment give way to other texts. -/
theorem skeleton_of_disguised_import :
    disguises true .code "const a = require('fs')\nx = \"f(y)\" # é=1\n".toList
        "const a = require('vm')\nx = \"a=b/\" # ü//\n".toList = true ∧
      (buildTree "const a = require('vm')\nx = \"a=b/\" # ü//\n").map SyntaxTree.skeleton =
        (buildTree "const a = require('fs')\nx = \"f(y)\" # é=1\n").map SyntaxTree.skeleton :=
  ⟨by decide, skeleton_of_disguises _ _ true (by decide)⟩

end Outline

end SourceAudit
