import Mathlib.Data.Finset.Card
import Mathlib.Data.List.Induction
import SourceAudit.Rule.File

/-!
# Sets of rules as maps

A set of rules is a map from identifiers to rules that remembers the order in which identifiers came.

* `Change`, `after` : what can be done to a set, and the set after changes from the empty one;
* `Change.accepted` : the rules that a change accepts;
* `ids_insert`, `get?_insert` : what one insertion does;
* `ids_inserted`, `get?_inserted` : what insertions do in a row, told by the rules inserted;
* `offer`, `extend_eq`, `extend_append` : an extension inserts the rules that can be run and warns of the others;
* `load_eq_after` : loading is extension by each source that can be read;
* `after_is_map` : the set after any changes.
-/

namespace SourceAudit

def Rule.isValid (r : Rule) : Bool := r.check.isOk

/-- The warning about a rule that cannot be run. -/
def Rule.rejection? (r : Rule) : Option String :=
  match r.check with
  | .ok _ => none
  | .error e => some ("skipping rule: " ++ e.message)

theorem Rule.isValid_iff (r : Rule) : r.isValid = true ↔ r.check = .ok () := by
  unfold isValid
  cases r.check <;> simp [Except.isOk, Except.toBool]

namespace RuleSet

/-- What can be done to a set. -/
inductive Change where
  | insert (rule : Rule)
  | extend (rules : List Rule)

/-- The rules that a change accepts: `insert` takes its rule as it is, `extend` the rules that can be run. -/
def Change.accepted : Change → List Rule
  | insert rule => [rule]
  | extend rules => rules.filter Rule.isValid

def change (s : RuleSet) : Change → RuleSet
  | .insert rule => s.insert rule
  | .extend rules => (s.extend rules).1

def after (changes : List Change) : RuleSet := changes.foldl change empty

def ids (s : RuleSet) : List String := s.rules.map Rule.id

theorem nodup_ids (s : RuleSet) : s.ids.Nodup := s.distinct

/-! ## One insertion -/

theorem ids_insert (s : RuleSet) (rule : Rule) :
    (s.insert rule).ids = if rule.id ∈ s.ids then s.ids else s.ids ++ [rule.id] := ids_insertRule rule s.rules

theorem get?_insert (s : RuleSet) (rule : Rule) (id : String) :
    (s.insert rule).get? id = if rule.id = id then some rule else s.get? id := by
  rw [get?, get?, rules_insert]
  induction s.rules with
  | nil => by_cases hid : rule.id = id <;> simp [insertRule, hid]
  | cons r rs ih =>
    rw [insertRule]
    by_cases hr : r.id = rule.id
    · rw [if_pos hr, List.find?_cons, List.find?_cons, hr]
      by_cases hid : rule.id = id <;> simp [hid]
    · rw [if_neg hr, List.find?_cons, List.find?_cons, ih]
      by_cases hid : r.id = id
      · have : rule.id ≠ id := fun h => hr (hid.trans h.symm)
        simp [hid, this]
      · simp [hid]

theorem mem_insertRule {rule r : Rule} {rules : List Rule} (h : r ∈ insertRule rule rules) : r = rule ∨ r ∈ rules := by
  induction rules with
  | nil => exact Or.inl (List.mem_singleton.mp h)
  | cons q qs ih =>
    rw [insertRule] at h
    split at h
    · exact (List.mem_cons.mp h).imp_right (List.mem_cons_of_mem q)
    · rcases List.mem_cons.mp h with rfl | h
      · exact Or.inr List.mem_cons_self
      · exact (ih h).imp_right (List.mem_cons_of_mem q)

/-! ## Insertions in a row -/

def inserted (rules : List Rule) : RuleSet := rules.foldl insert empty

theorem inserted_concat (rules : List Rule) (rule : Rule) :
    inserted (rules ++ [rule]) = (inserted rules).insert rule := by
  rw [inserted, List.foldl_append]
  rfl

theorem eraseDups_concat (names : List String) (name : String) :
    (names ++ [name]).eraseDups = if name ∈ names then names.eraseDups else names.eraseDups ++ [name] := by
  rw [List.eraseDups_append]
  split
  · rename_i h
    simp [List.removeAll, h]
  · rename_i h
    simp [List.removeAll, h, List.eraseDups_cons]

/-- Identifiers stand in the order in which they came first. -/
theorem ids_inserted (rules : List Rule) : (inserted rules).ids = (rules.map Rule.id).eraseDups := by
  induction rules using List.reverseRecOn with
  | nil => rfl
  | append_singleton rules rule ih =>
    rw [inserted_concat, ids_insert, ih, List.map_append, List.map_singleton, eraseDups_concat]
    simp only [List.mem_eraseDups]

theorem get?_inserted (rules : List Rule) (id : String) :
    (inserted rules).get? id = rules.reverse.find? (·.id = id) := by
  induction rules using List.reverseRecOn with
  | nil => rfl
  | append_singleton rules rule ih =>
    rw [inserted_concat, get?_insert, ih, List.reverse_append, List.reverse_singleton, List.singleton_append,
      List.find?_cons]
    by_cases hid : rule.id = id <;> simp [hid]

theorem size_inserted (rules : List Rule) : (inserted rules).size = (rules.map Rule.id).toFinset.card := by
  have hsize : (inserted rules).size = (inserted rules).ids.length := (List.length_map _).symm
  have hmem : (inserted rules).ids.toFinset = (rules.map Rule.id).toFinset := by
    ext id
    rw [ids_inserted, List.mem_toFinset, List.mem_eraseDups, List.mem_toFinset]
  rw [hsize, ← hmem, List.toFinset_card_of_nodup (inserted rules).nodup_ids]

theorem mem_inserted {rules : List Rule} {r : Rule} (h : r ∈ (inserted rules).rules) : r ∈ rules := by
  induction rules using List.reverseRecOn with
  | nil => cases h
  | append_singleton rules rule ih =>
    rw [inserted_concat] at h
    rw [List.mem_append, List.mem_singleton]
    exact (mem_insertRule h).symm.imp_left ih

/-! ## Extensions -/

/-- What one rule of an extension does to the set and to the warnings. -/
def offer (state : RuleSet × List String) (rule : Rule) : RuleSet × List String :=
  (if rule.isValid then state.1.insert rule else state.1, state.2 ++ rule.rejection?.toList)

theorem extend_eq_foldl (s : RuleSet) (rules : List Rule) : s.extend rules = rules.foldl offer (s, []) := by
  unfold extend
  congr 1
  funext state rule
  unfold offer Rule.isValid Rule.rejection?
  cases rule.check <;> simp [Except.isOk, Except.toBool]

/-- An extension inserts the rules that can be run, and warns of the others. -/
theorem extend_eq (s : RuleSet) (rules : List Rule) :
    s.extend rules = ((rules.filter Rule.isValid).foldl insert s, rules.filterMap Rule.rejection?) := by
  -- the warnings so far stand before those to come
  have hfold (rules : List Rule) (s : RuleSet) (warnings : List String) : rules.foldl offer (s, warnings) =
      ((rules.filter Rule.isValid).foldl insert s, warnings ++ rules.filterMap Rule.rejection?) := by
    induction rules generalizing s warnings with
    | nil => simp
    | cons rule rules ih =>
      rw [List.foldl_cons, offer, ih]
      cases hvalid : rule.isValid <;> cases hreject : rule.rejection? <;> simp [hvalid, hreject]
  rw [extend_eq_foldl, hfold, List.nil_append]

theorem extend_append (s : RuleSet) (a b : List Rule) :
    s.extend (a ++ b) = (((s.extend a).1.extend b).1, (s.extend a).2 ++ ((s.extend a).1.extend b).2) := by
  simp only [extend_eq, List.filter_append, List.foldl_append, List.filterMap_append]

theorem change_eq (s : RuleSet) (c : Change) : s.change c = c.accepted.foldl insert s := by
  cases c with
  | insert rule => rfl
  | extend rules => rw [change, extend_eq, Change.accepted]

theorem after_eq_inserted (changes : List Change) : after changes = inserted (changes.flatMap Change.accepted) := by
  unfold after inserted
  generalize empty = s
  induction changes generalizing s with
  | nil => rfl
  | cons c changes ih => rw [List.foldl_cons, ih, change_eq, List.flatMap_cons, List.foldl_append]

/-- The warnings of an extension are those about the rules that cannot be run, one for each. -/
theorem warnings_extend (s : RuleSet) (rules : List Rule) :
    List.Forall₂ (fun r w => ∃ e, r.check = .error e ∧ w = "skipping rule: " ++ e.message)
      (rules.filter fun r => !r.isValid) (s.extend rules).2 := by
  rw [extend_eq]
  induction rules with
  | nil => exact .nil
  | cons rule rules ih =>
    cases hcheck : rule.check with
    | ok => simpa [Rule.isValid, Rule.rejection?, hcheck, Except.isOk, Except.toBool] using ih
    | error e => simpa [Rule.isValid, Rule.rejection?, hcheck, Except.isOk, Except.toBool] using ih

theorem check_of_mem_after {lists : List (List Rule)} {r : Rule} (h : r ∈ (after (lists.map .extend)).rules) :
    r.check = .ok () := by
  rw [after_eq_inserted, List.flatMap_map] at h
  obtain ⟨rules, -, hrules⟩ := List.mem_flatMap.mp (mem_inserted h)
  exact r.isValid_iff.mp (List.mem_filter.mp hrules).2

/-! ## Files -/

/-- The rules of the sources that can be read: those that are built in and those of files. -/
def sources (fs : FileSystem) (paths : List Path) : List (List Rule) :=
  Builtin.rules :: paths.filterMap fun p => (Rule.loadFile fs p).toOption

theorem foldl_extendFromFile (fs : FileSystem) (paths : List Path) (start : RuleSet × List String) :
    (paths.foldl (fun (s, warnings) p =>
      let (s, more) := s.extendFromFile fs p
      (s, warnings ++ more)) start).1 =
      ((paths.filterMap fun p => (Rule.loadFile fs p).toOption).map .extend).foldl change start.1 := by
  induction paths generalizing start with
  | nil => rfl
  | cons p paths ih =>
    obtain ⟨s, warnings⟩ := start
    rw [List.foldl_cons, ih, List.filterMap_cons]
    dsimp only
    rw [extendFromFile]
    cases Rule.loadFile fs p <;> rfl

theorem load_eq_after (fs : FileSystem) (paths : List Path) :
    (load fs paths).1 = after ((sources fs paths).map .extend) := by
  rw [load, foldl_extendFromFile, after, sources, List.map_cons, List.foldl_cons, change]

/-! ## The set after changes -/

/-- **A set of rules is a map in the order of insertion, behind a check.** After any changes, identifiers are distinct
and stand in the order in which they were first accepted; under each stands the rule that was accepted last, and there
are as many rules as identifiers were accepted. An extension accepts the rules that pass the check and gives one
warning for each of the others, in order; a rule that fails the check changes nothing, whatever its identifier; and
extensions can be split. Loading extends by each source that can be read. What is built by extensions alone holds only
rules that pass the check. -/
theorem after_is_map (changes : List Change) (s : RuleSet) (rules more : List Rule) (lists : List (List Rule))
    (fs : FileSystem) (paths : List Path) :
    let accepted := changes.flatMap Change.accepted
    (after changes).ids.Nodup ∧
    (after changes).ids = (accepted.map Rule.id).eraseDups ∧
    (∀ id, (after changes).get? id = accepted.reverse.find? (·.id = id)) ∧
    (after changes).size = (accepted.map Rule.id).toFinset.card ∧
    (s.extend rules).1 = (rules.filter Rule.isValid).foldl insert s ∧
    List.Forall₂ (fun r w => ∃ e, r.check = .error e ∧ w = "skipping rule: " ++ e.message)
      (rules.filter fun r => !r.isValid) (s.extend rules).2 ∧
    (∀ r : Rule, r.isValid = false → (s.extend [r]).1 = s) ∧
    s.extend (rules ++ more) =
      (((s.extend rules).1.extend more).1, (s.extend rules).2 ++ ((s.extend rules).1.extend more).2) ∧
    (load fs paths).1 = after ((sources fs paths).map .extend) ∧
    (∀ r ∈ (after (lists.map .extend)).rules, r.check = .ok ()) ∧
    ∀ r ∈ (load fs paths).1.rules, r.check = .ok () := by
  intro accepted
  have hload := load_eq_after fs paths
  rw [after_eq_inserted changes]
  refine ⟨(inserted accepted).nodup_ids, ids_inserted accepted, get?_inserted accepted, size_inserted accepted,
    congrArg Prod.fst (extend_eq s rules), warnings_extend s rules, fun r hr => ?_, extend_append s rules more, hload,
    fun r hr => check_of_mem_after hr, fun r hr => check_of_mem_after (hload ▸ hr)⟩
  rw [extend_eq, List.filter_singleton, hr]
  rfl

end RuleSet

end SourceAudit
