import Compliance.Proofs.Registry.Export
import Compliance.Proofs.Registry.Isolation
import Compliance.Proofs.Registry.Latest

/-!
What is left of a list of definitions once all are registered: of those that are accepted, under
each id the last one.
-/

namespace Compliance

/-- The rules are, by ascending id, those that were accepted last under their ids. -/
structure Remaining (accepted rules : List Rule) : Prop where
  ascending : (rules.map Rule.id).Pairwise (· < ·)
  latest : ∀ id, (rules.find? fun rule => rule.id = id) =
    accepted.reverse.find? fun rule => rule.id = id
  atMost : rules.length ≤ accepted.length
  all_iff : rules.length = accepted.length ↔ (accepted.map Rule.id).Nodup

theorem Remaining.distinct {accepted rules : List Rule} (remaining : Remaining accepted rules) :
    (rules.map Rule.id).Nodup :=
  remaining.ascending.imp String.ne_of_lt

theorem Remaining.mem_iff {accepted rules : List Rule} (remaining : Remaining accepted rules)
    (rule : Rule) :
    rule ∈ rules ↔ (accepted.reverse.find? fun other => other.id = rule.id) = some rule := by
  rw [← remaining.latest]
  constructor
  · intro listed
    obtain ⟨other, found⟩ :
        ∃ other, (rules.find? fun other => other.id = rule.id) = some other := by
      rw [← Option.isSome_iff_exists, List.find?_isSome]
      exact ⟨rule, listed, by simp⟩
    have same : other.id = rule.id := by simpa using List.find?_some found
    have stands := List.mem_of_find?_eq_some found
    rw [found, List.inj_on_of_nodup_map remaining.distinct stands listed same]
  · exact List.mem_of_find?_eq_some

namespace Registry

section WellKept

variable {registry : Registry} (kept : registry.WellKept)
include kept

theorem WellKept.map_id_toList : registry.toList.map Rule.id = registry.ids := by
  rw [← keys_ruleEntries, kept.entries_toList, ids]

theorem WellKept.find?_toList (id : String) :
    (registry.toList.find? fun rule => rule.id = id) = registry.get? id := by
  rw [← get?_ruleEntries, kept.entries_toList, get?]

theorem WellKept.get?_of_mem_toList {rule : Rule} (listed : rule ∈ registry.toList) :
    registry.get? rule.id = some rule := by
  have stored : (rule.id, rule) ∈ registry.rules := by
    rw [← kept.entries_toList]
    exact List.mem_map_of_mem listed
  exact kept.ascending.get?_of_mem stored

end WellKept

theorem length_toList_registerValues (definitions : List Json) :
    (empty.registerValues definitions).registry.toList.length =
      ((acceptedRules (definitions.map Rule.ofJson)).map Rule.id).toFinset.card := by
  have kept := wellKept_empty.registerValues definitions
  rw [toList, List.length_map, ← size, ← card_ids kept.ascending, registerValues_registry,
    toFinset_ids_holding]
  exact congrArg Finset.card (Finset.empty_union _)

theorem remaining_toList (definitions : List Json) :
    Remaining (acceptedRules (definitions.map Rule.ofJson))
      (empty.registerValues definitions).registry.toList := by
  have kept := wellKept_empty.registerValues definitions
  have count := length_toList_registerValues definitions
  constructor
  · rw [kept.map_id_toList]
    exact kept.ascending.keys
  · intro id
    rw [kept.find?_toList, registerValues_registry, get?_holding]
    exact Option.or_none
  · rw [count, ← List.length_map Rule.id]
    exact List.toFinset_card_le _
  · rw [count, ← List.length_map Rule.id]
    exact Multiset.toFinset_card_eq_card_iff_nodup

theorem get?_registerValues_iff {definitions : List Json} {rules : List Rule}
    (remaining : Remaining (acceptedRules (definitions.map Rule.ofJson)) rules) (id : String)
    (rule : Rule) :
    (empty.registerValues definitions).registry.get? id = some rule ↔
      rule ∈ rules ∧ rule.id = id := by
  have latest : (empty.registerValues definitions).registry.get? id =
      (acceptedRules (definitions.map Rule.ofJson)).reverse.find? fun rule => rule.id = id := by
    rw [registerValues_registry, get?_holding]
    exact Option.or_none
  rw [latest, remaining.mem_iff]
  constructor
  · intro found
    obtain rfl : rule.id = id := by simpa using List.find?_some found
    exact ⟨found, rfl⟩
  · rintro ⟨found, rfl⟩
    exact found

theorem counts_registerValues (definitions : List Json) :
    (empty.registerValues definitions).summary.total = definitions.length ∧
      (empty.registerValues definitions).summary.successful =
        (acceptedRules (definitions.map Rule.ofJson)).length ∧
      (empty.registerValues definitions).summary.total =
        (empty.registerValues definitions).summary.successful +
          (empty.registerValues definitions).summary.failed := by
  have balance := length_accepted_add_rejected 0 (definitions.map Rule.ofJson)
  rw [registerValues_eq_addAll, Batch.addAll_eq (Validated.of_definitions definitions)]
  simpa using balance

end Registry

end Compliance
