import Compliance.Proofs.Registry.Accepted

/-!
What a registry holds after a run of operations: under every id the rule that was last accepted
under it since the registry was last cleared, and nothing else.
-/

namespace Compliance.Registry

/-- What an operation offers to the registry, each entry with the outcome that it has by itself. -/
def Operation.candidates : Operation → List (Except Refusal Rule)
  | .tryRegister rule | .register rule => [rule.validated]
  | .registerMany rules => rules.map Rule.validated
  | .registerValues definitions => definitions.map Rule.ofJson
  | .importText payload =>
      match Json.items? payload with
      | some definitions => definitions.map Rule.ofJson
      | none => []
  | .clear => []

/-- The log of the accepted rules, oldest first, after one more operation. -/
def logged (log : List Rule) : Operation → List Rule
  | .clear => []
  | operation => log ++ acceptedRules operation.candidates

def acceptedSinceClear (operations : List Operation) : List Rule :=
  operations.foldl logged []

theorem tryRegister_eq_match (registry : Registry) (rule : Rule) :
    registry.tryRegister rule =
      match rule.validated with
      | .ok valid => .ok (registry.holding [valid])
      | .error refusal => .error refusal := by
  rw [tryRegister]
  cases rule.validated <;> rfl

theorem perform_eq_holding (registry : Registry) {operation : Operation}
    (kept : operation ≠ .clear) :
    registry.perform operation = registry.holding (acceptedRules operation.candidates) := by
  cases operation with
  | tryRegister rule =>
      rw [perform, tryRegister_eq_match, Operation.candidates]
      cases rule.validated <;> rfl
  | register rule =>
      rw [perform, register, tryRegister_eq_match, Operation.candidates]
      cases rule.validated <;> rfl
  | registerMany rules => exact registry.registerMany_registry rules
  | registerValues definitions => exact registry.registerValues_registry definitions
  | importText payload =>
      rw [perform, Operation.candidates]
      cases listed : Json.items? payload with
      | some definitions =>
          rw [registry.importText_of_items listed]
          exact registry.registerValues_registry definitions
      | none =>
          obtain ⟨reason, refused⟩ := registry.importText_of_no_items listed
          rw [refused]
          rfl
  | clear => exact absurd rfl kept

theorem perform_holding (log : List Rule) (operation : Operation) :
    (empty.holding log).perform operation = empty.holding (logged log operation) := by
  by_cases cleared : operation = .clear
  · subst cleared
    rfl
  · have extended : logged log operation = log ++ acceptedRules operation.candidates := by
      cases operation with
      | clear => exact absurd rfl cleared
      | _ => rfl
    rw [perform_eq_holding _ cleared, extended, holding_append]

theorem performAll_holding (log : List Rule) (operations : List Operation) :
    operations.foldl perform (empty.holding log) =
      empty.holding (operations.foldl logged log) := by
  induction operations generalizing log with
  | nil => rfl
  | cons operation rest ih => rw [List.foldl_cons, List.foldl_cons, perform_holding, ih]

theorem run_eq_holding (operations : List Operation) :
    run operations = empty.holding (acceptedSinceClear operations) :=
  performAll_holding [] operations

theorem get?_ruleEntries (id : String) (rules : List Rule) :
    Keyed.get? id (rules.map fun rule => (rule.id, rule)) =
      rules.find? fun rule => rule.id = id := by
  induction rules with
  | nil => rfl
  | cons rule rest ih =>
      rw [List.map_cons, Keyed.get?_cons, ih, List.find?_cons]
      by_cases same : rule.id = id
      · simp [same]
      · simp [same, Ne.symm same]

theorem get?_holding (registry : Registry) (rules : List Rule) (id : String) :
    (registry.holding rules).get? id =
      (rules.reverse.find? fun rule => rule.id = id).or (registry.get? id) := by
  rw [get?, holding, Keyed.get?_insertAll, ← List.map_reverse, get?_ruleEntries, get?]

/-- Whether the operation has a say in what stands under the id. -/
def Operation.Touches (id : String) (operation : Operation) : Prop :=
  operation = .clear ∨ ∃ rule ∈ acceptedRules operation.candidates, rule.id = id

theorem get?_perform_of_not_touches (registry : Registry) {operation : Operation} {id : String}
    (untouched : ¬ operation.Touches id) :
    (registry.perform operation).get? id = registry.get? id := by
  obtain ⟨kept, others⟩ := not_or.mp untouched
  have nothing : ((acceptedRules operation.candidates).reverse.find? fun rule => rule.id = id) =
      none := by
    refine List.find?_eq_none.mpr fun rule listed => ?_
    have different : rule.id ≠ id := fun same => others ⟨rule, List.mem_reverse.mp listed, same⟩
    simpa using different
  rw [perform_eq_holding registry kept, get?_holding, nothing, Option.none_or]

theorem get?_performAll_of_not_touches (registry : Registry) {operations : List Operation}
    {id : String} (untouched : ∀ operation ∈ operations, ¬ operation.Touches id) :
    (operations.foldl perform registry).get? id = registry.get? id := by
  induction operations generalizing registry with
  | nil => rfl
  | cons operation rest ih =>
      obtain ⟨first, others⟩ := List.forall_mem_cons.mp untouched
      rw [List.foldl_cons, ih _ others, get?_perform_of_not_touches registry first]

/-- What holds of a registry in which these rules were accepted, oldest first. -/
structure Reflects (registry : Registry) (log : List Rule) : Prop where
  keyed : ∀ entry ∈ registry.rules, entry.2.id = entry.1
  validated : ∀ entry ∈ registry.rules, entry.2.validated = .ok entry.2 ∧ entry.2.WellFormed
  ascending : registry.ids.Pairwise (· < ·)
  distinct : registry.ids.Nodup
  size : registry.size = registry.ids.length
  latest : ∀ id, registry.get? id = log.reverse.find? fun rule => rule.id = id

/-- Whatever was done to a registry, it holds under each id the rule last accepted under it. -/
theorem run_reflects (operations : List Operation) :
    (run operations).Reflects (acceptedSinceClear operations) := by
  have kept := wellKept_run operations
  refine ⟨kept.keyed, ?_, kept.ascending.keys, kept.ascending.nodup, ?_, ?_⟩
  · intro entry stored
    have valid := kept.valid entry stored
    exact ⟨valid, (Rule.valid_iff_wellFormed entry.2).mp valid⟩
  · simp [size, ids, Keyed.keys]
  · intro id
    rw [run_eq_holding, get?_holding]
    exact Option.or_none

end Compliance.Registry
