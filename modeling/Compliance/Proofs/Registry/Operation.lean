import Compliance.Proofs.Keyed
import Compliance.Proofs.Rule.Decoding
import Compliance.Registry

/-!
Runs of registry operations, and what each of them preserves: every rule is valid and stands under
its own id, and the ids ascend.
-/

namespace Compliance

namespace Registry

inductive Operation where
  | tryRegister (rule : Rule)
  | register (rule : Rule)
  | registerMany (rules : List Rule)
  | registerValues (definitions : List Json)
  | importText (payload : String)
  | clear

/-- The registry after an operation; one that is turned down leaves it alone. -/
def perform (registry : Registry) : Operation → Registry
  | .tryRegister rule =>
      match registry.tryRegister rule with
      | .ok next => next
      | .error _ => registry
  | .register rule => (registry.register rule).2
  | .registerMany rules => (registry.registerMany rules).registry
  | .registerValues definitions => (registry.registerValues definitions).registry
  | .importText payload =>
      match registry.importText payload with
      | .ok batch => batch.registry
      | .error _ => registry
  | .clear => empty

def run (operations : List Operation) : Registry :=
  operations.foldl perform empty

structure WellKept (registry : Registry) : Prop where
  keyed : ∀ entry ∈ registry.rules, entry.2.id = entry.1
  valid : ∀ entry ∈ registry.rules, entry.2.Valid
  ascending : Keyed.Ascending registry.rules

theorem tryRegister_of_valid (registry : Registry) {rule : Rule} (valid : rule.Valid) :
    registry.tryRegister rule = .ok { rules := Keyed.insert rule.id rule registry.rules } := by
  have passed : rule.validated = .ok rule := valid
  rw [tryRegister, passed]

theorem tryRegister_eq_ok {registry next : Registry} {rule : Rule}
    (accepted : registry.tryRegister rule = .ok next) :
    rule.Valid ∧ next = { rules := Keyed.insert rule.id rule registry.rules } := by
  rw [tryRegister] at accepted
  split at accepted
  · rename_i valid passed
    obtain ⟨rfl, checked⟩ := Rule.eq_of_validated passed
    exact ⟨checked, (Except.ok.inj accepted).symm⟩
  · simp at accepted

theorem wellKept_empty : empty.WellKept :=
  ⟨fun _ absent => absurd absent List.not_mem_nil, fun _ absent => absurd absent List.not_mem_nil,
    List.Pairwise.nil⟩

namespace WellKept

theorem id_of_get? {registry : Registry} (kept : registry.WellKept) {id : String} {rule : Rule}
    (known : registry.get? id = some rule) : rule.id = id :=
  kept.keyed (id, rule) (Keyed.mem_of_get? known)

theorem insert {registry : Registry} (kept : registry.WellKept) {rule : Rule}
    (valid : rule.Valid) :
    WellKept { rules := Keyed.insert rule.id rule registry.rules } := by
  refine ⟨?_, ?_, kept.ascending.insert rule.id rule⟩
  · intro entry member
    rcases Keyed.mem_of_mem_insert member with rfl | old
    · rfl
    · exact kept.keyed entry old
  · intro entry member
    rcases Keyed.mem_of_mem_insert member with rfl | old
    · exact valid
    · exact kept.valid entry old

theorem tryRegister {registry next : Registry} (kept : registry.WellKept) {rule : Rule}
    (accepted : registry.tryRegister rule = .ok next) : next.WellKept := by
  obtain ⟨valid, rfl⟩ := tryRegister_eq_ok accepted
  exact kept.insert valid

theorem add {batch : Batch} (kept : batch.registry.WellKept) (candidate : Except Refusal Rule) :
    (batch.add candidate).registry.WellKept := by
  rw [Batch.add]
  split
  · rename_i next accepted
    cases candidate with
    | error refusal => simp [Except.bind] at accepted
    | ok rule => exact kept.tryRegister accepted
  · exact kept

theorem addAll {batch : Batch} (kept : batch.registry.WellKept)
    (candidates : List (Except Refusal Rule)) :
    (candidates.foldl Batch.add batch).registry.WellKept := by
  induction candidates generalizing batch with
  | nil => exact kept
  | cons candidate rest ih => exact ih (kept.add candidate)

theorem registerMany {registry : Registry} (kept : registry.WellKept) (rules : List Rule) :
    (registry.registerMany rules).registry.WellKept := by
  rw [Registry.registerMany, ← List.foldl_map]
  exact addAll kept (rules.map .ok)

theorem registerValues {registry : Registry} (kept : registry.WellKept)
    (definitions : List Json) : (registry.registerValues definitions).registry.WellKept := by
  rw [Registry.registerValues, ← List.foldl_map]
  exact addAll kept (definitions.map Rule.ofJson)

theorem perform {registry : Registry} (kept : registry.WellKept) (operation : Operation) :
    (registry.perform operation).WellKept := by
  cases operation with
  | tryRegister rule =>
      rw [Registry.perform]
      split
      · rename_i next accepted
        exact kept.tryRegister accepted
      · exact kept
  | register rule =>
      rw [Registry.perform, Registry.register]
      split
      · rename_i next accepted
        exact kept.tryRegister accepted
      · exact kept
  | registerMany rules => exact kept.registerMany rules
  | registerValues definitions => exact kept.registerValues definitions
  | importText payload =>
      rw [Registry.perform, Registry.importText]
      cases Json.listOfText payload with
      | error reason => exact kept
      | ok definitions => exact kept.registerValues definitions
  | clear => exact wellKept_empty

theorem performAll {registry : Registry} (kept : registry.WellKept)
    (operations : List Operation) : (operations.foldl Registry.perform registry).WellKept := by
  induction operations generalizing registry with
  | nil => exact kept
  | cons operation rest ih => exact ih (kept.perform operation)

end WellKept

theorem wellKept_run (operations : List Operation) : (run operations).WellKept :=
  wellKept_empty.performAll operations

end Registry

end Compliance
