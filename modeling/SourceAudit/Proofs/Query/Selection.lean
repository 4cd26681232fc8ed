import Mathlib.Tactic.SplitIfs
import SourceAudit.Query.Matcher

/-!
# What a matcher selects

`NodeMatcher.Selects m node` : the node has one of the kinds and holds one of the patterns. `selects_iff` and
`firstMatch?_isSome_iff` tie it to the matcher made ready.
-/

namespace SourceAudit.Query

/-- The node is of a listed kind, and a pattern occurs in the text that it is compared with. -/
def NodeMatcher.Selects (m : NodeMatcher) (node : SyntaxNode) : Prop :=
  node.kind ∈ m.kinds.members ∧ ∃ spec ∈ m.patterns, (ReadyPattern.ofSpec spec).occursIn (matchText node).toList = true

theorem ReadyPattern.spec?_isSome_of_occursIn {p : ReadyPattern} {text : List Char} (h : p.occursIn text = true) :
    p.spec?.isSome := by
  cases p with
  | literal spec lowered => rfl
  | regex spec r => rfl
  | never => cases h

theorem ReadyMatcher.firstMatch?_isSome_iff (m : NodeMatcher) (node : SyntaxNode) :
    (m.ready.firstMatch? node).isSome ↔ m.Selects node := by
  unfold ReadyMatcher.firstMatch? NodeMatcher.Selects NodeMatcher.ready
  split_ifs with hkind
  · rw [List.contains_iff_mem] at hkind
    constructor
    · intro h
      obtain ⟨spec, hspec⟩ := Option.isSome_iff_exists.mp h
      obtain ⟨p, hp, -⟩ := Option.bind_eq_some_iff.mp hspec
      obtain ⟨s, hs, rfl⟩ := List.mem_map.mp (List.mem_of_find?_eq_some hp)
      exact ⟨hkind, s, hs, List.find?_some hp⟩
    · rintro ⟨-, spec, hspec, hocc⟩
      have hfound : ((m.patterns.map ReadyPattern.ofSpec).find? fun p => p.occursIn (matchText node).toList).isSome :=
        List.find?_isSome.mpr ⟨_, List.mem_map_of_mem hspec, hocc⟩
      obtain ⟨p, hp⟩ := Option.isSome_iff_exists.mp hfound
      show (((m.patterns.map ReadyPattern.ofSpec).find? fun p => p.occursIn (matchText node).toList).bind
        ReadyPattern.spec?).isSome
      rw [hp, Option.bind_some]
      exact ReadyPattern.spec?_isSome_of_occursIn (List.find?_some hp)
  · rw [List.contains_iff_mem] at hkind
    exact iff_of_false nofun (fun h => hkind h.1)

theorem ReadyMatcher.selects_iff (m : NodeMatcher) (node : SyntaxNode) :
    m.ready.selects node = true ↔ m.Selects node := firstMatch?_isSome_iff m node

end SourceAudit.Query
