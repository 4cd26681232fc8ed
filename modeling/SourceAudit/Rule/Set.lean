import SourceAudit.Rule.Validation

/-!
# Sets of rules

A `RuleSet` holds rules in order, one for each identifier. A rule with an identifier that is there already takes the
place of the other.
-/

namespace SourceAudit

/-- Rules in order, no two with the same identifier. -/
structure RuleSet where
  rules : List Rule
  distinct : (rules.map Rule.id).Nodup

namespace RuleSet

def empty : RuleSet := ⟨[], List.Pairwise.nil⟩

/-- Puts a rule in the place of the one with its identifier, or at the end. -/
def insertRule (rule : Rule) : List Rule → List Rule
  | [] => [rule]
  | r :: rs => if r.id = rule.id then rule :: rs else r :: insertRule rule rs

theorem ids_insertRule (rule : Rule) (rules : List Rule) :
    (insertRule rule rules).map Rule.id =
      if rule.id ∈ rules.map Rule.id then rules.map Rule.id else rules.map Rule.id ++ [rule.id] := by
  induction rules with
  | nil => simp [insertRule]
  | cons r rs ih =>
    rw [insertRule]
    by_cases hr : r.id = rule.id
    · simp [hr]
    · rw [if_neg hr, List.map_cons, ih]
      simp only [List.map_cons, List.mem_cons, Ne.symm hr, false_or]
      split <;> rfl

theorem nodup_insertRule (rule : Rule) {rules : List Rule} (h : (rules.map Rule.id).Nodup) :
    ((insertRule rule rules).map Rule.id).Nodup := by
  rw [ids_insertRule]
  split
  · exact h
  · rename_i hnew
    refine List.nodup_append.mpr ⟨h, by simp, fun id hid other hother heq => ?_⟩
    rw [List.mem_singleton.mp hother] at heq
    exact hnew (heq ▸ hid)

def insert (s : RuleSet) (rule : Rule) : RuleSet := ⟨insertRule rule s.rules, nodup_insertRule rule s.distinct⟩

theorem rules_insert (s : RuleSet) (rule : Rule) : (s.insert rule).rules = insertRule rule s.rules := rfl

def get? (s : RuleSet) (id : String) : Option Rule := s.rules.find? (·.id = id)

def size (s : RuleSet) : Nat := s.rules.length

def forLanguage (s : RuleSet) (language : Option String) : List Rule :=
  s.rules.filter fun r => r.enabled && r.appliesTo language

/-- Adds the rules that can be run, with a warning for each of the others. -/
def extend (s : RuleSet) (rules : List Rule) : RuleSet × List String :=
  rules.foldl (fun (s, warnings) rule =>
    match rule.check with
    | .ok _ => (s.insert rule, warnings)
    | .error e => (s, warnings ++ ["skipping rule: " ++ e.message])) (s, [])

end RuleSet

end SourceAudit
