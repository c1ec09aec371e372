import Compliance.Proofs.Json.Payload
import Compliance.Proofs.Registry.Operation
import Compliance.Proofs.Rule.Validity

/-!
Batches, entry by entry. Each entry is a candidate, a rule or the reason why it is turned down,
which is settled before the registry is looked at; what a batch does follows from the candidates
alone. The rules among them are put in one after the other, and the others are reported.
-/

namespace Compliance

def acceptedRules (candidates : List (Except Refusal Rule)) : List Rule :=
  candidates.filterMap Except.toOption

/-- The reports of the refusals among the candidates, the first of which has the index `start`. -/
def rejectionsFrom (start : Nat) : List (Except Refusal Rule) → List Rejection
  | [] => []
  | .ok _ :: rest => rejectionsFrom (start + 1) rest
  | .error refusal :: rest => Summary.rejection start refusal :: rejectionsFrom (start + 1) rest

def Validated (candidates : List (Except Refusal Rule)) : Prop :=
  ∀ rule, .ok rule ∈ candidates → rule.Valid

theorem mem_acceptedRules (rule : Rule) (candidates : List (Except Refusal Rule)) :
    rule ∈ acceptedRules candidates ↔ .ok rule ∈ candidates := by
  rw [acceptedRules, List.mem_filterMap]
  constructor
  · rintro ⟨candidate, listed, given⟩
    cases candidate with
    | error refusal => simp [Except.toOption] at given
    | ok accepted =>
        rw [Except.toOption, Option.some.injEq] at given
        exact given ▸ listed
  · exact fun listed => ⟨.ok rule, listed, rfl⟩

theorem acceptedRules_ok (rules : List Rule) : acceptedRules (rules.map .ok) = rules := by
  induction rules with
  | nil => rfl
  | cons rule rest ih => exact congrArg (List.cons rule) ih

theorem rejectionsFrom_ok (start : Nat) (rules : List Rule) :
    rejectionsFrom start (rules.map .ok) = [] := by
  induction rules generalizing start with
  | nil => rfl
  | cons rule rest ih => exact ih (start + 1)

theorem Validated.of_rules (rules : List Rule) : Validated (rules.map Rule.validated) := by
  intro rule listed
  obtain ⟨candidate, _, passed⟩ := List.mem_map.mp listed
  exact Rule.valid_of_validated passed

theorem Validated.of_definitions (definitions : List Json) :
    Validated (definitions.map Rule.ofJson) := by
  intro rule listed
  obtain ⟨definition, _, read⟩ := List.mem_map.mp listed
  exact Rule.valid_of_ofJson read

namespace Registry

def holding (registry : Registry) (rules : List Rule) : Registry :=
  ⟨Keyed.insertAll (rules.map fun rule => (rule.id, rule)) registry.rules⟩

theorem holding_append (registry : Registry) (earlier later : List Rule) :
    registry.holding (earlier ++ later) = (registry.holding earlier).holding later := by
  simp [holding, Keyed.insertAll]

theorem register_of_valid (registry : Registry) {rule : Rule} (valid : rule.Valid) :
    registry.register rule = (true, registry.holding [rule]) := by
  rw [register, tryRegister_of_valid registry valid]
  rfl

theorem holding_eq_foldl (registry : Registry) {rules : List Rule}
    (valid : ∀ rule ∈ rules, rule.Valid) :
    registry.holding rules =
      rules.foldl (fun before rule => (before.register rule).2) registry := by
  induction rules generalizing registry with
  | nil => rfl
  | cons rule rest ih =>
      obtain ⟨first, others⟩ := List.forall_mem_cons.mp valid
      rw [List.foldl_cons, register_of_valid registry first, ← ih _ others, ← holding_append]
      rfl

end Registry

namespace Batch

theorem add_of_valid (batch : Batch) {rule : Rule} (valid : rule.Valid) :
    batch.add (.ok rule) =
      { registry := batch.registry.holding [rule], summary := batch.summary.accept } := by
  rw [add, Except.bind, Registry.tryRegister_of_valid batch.registry valid]
  rfl

theorem add_validated (batch : Batch) (rule : Rule) :
    batch.add (.ok rule) = batch.add rule.validated := by
  cases checked : rule.validated with
  | ok valid =>
      obtain ⟨rfl, _⟩ := Rule.eq_of_validated checked
      rfl
  | error refusal => simp [add, Except.bind, Registry.tryRegister, checked]

theorem addAll_eq {candidates : List (Except Refusal Rule)} (validated : Validated candidates)
    (batch : Batch) :
    candidates.foldl add batch =
      { registry := batch.registry.holding (acceptedRules candidates)
        summary :=
          { total := batch.summary.total + candidates.length
            successful := batch.summary.successful + (acceptedRules candidates).length
            failed := batch.summary.failed + (rejectionsFrom batch.summary.total candidates).length
            errors := batch.summary.errors ++ rejectionsFrom batch.summary.total candidates } } := by
  induction candidates generalizing batch with
  | nil => simp [rejectionsFrom, acceptedRules, Registry.holding, Keyed.insertAll]
  | cons candidate rest ih =>
      have others : Validated rest := fun rule listed =>
        validated rule (List.mem_cons_of_mem candidate listed)
      rw [List.foldl_cons, ih others]
      cases candidate with
      | ok rule =>
          have accepted : acceptedRules (.ok rule :: rest) = [rule] ++ acceptedRules rest := rfl
          rw [add_of_valid batch (validated rule List.mem_cons_self), accepted,
            Registry.holding_append]
          simp only [Summary.accept, rejectionsFrom, List.length_cons, List.length_append,
            List.length_nil]
          congr 2 <;> omega
      | error refusal =>
          have accepted : acceptedRules (.error refusal :: rest) = acceptedRules rest := rfl
          rw [accepted, add, Except.bind]
          simp only [Summary.reject, rejectionsFrom, List.length_cons, List.append_assoc,
            List.singleton_append]
          congr 2 <;> omega

end Batch

namespace Registry

theorem registerMany_eq_addAll (registry : Registry) (rules : List Rule) :
    registry.registerMany rules = (rules.map Rule.validated).foldl Batch.add { registry } := by
  rw [registerMany, List.foldl_map]
  congr 1
  funext batch rule
  exact batch.add_validated rule

theorem registerValues_eq_addAll (registry : Registry) (definitions : List Json) :
    registry.registerValues definitions =
      (definitions.map Rule.ofJson).foldl Batch.add { registry } := by
  rw [registerValues, List.foldl_map]

theorem registerMany_registry (registry : Registry) (rules : List Rule) :
    (registry.registerMany rules).registry =
      registry.holding (acceptedRules (rules.map Rule.validated)) := by
  rw [registerMany_eq_addAll, Batch.addAll_eq (Validated.of_rules rules)]

theorem registerValues_registry (registry : Registry) (definitions : List Json) :
    (registry.registerValues definitions).registry =
      registry.holding (acceptedRules (definitions.map Rule.ofJson)) := by
  rw [registerValues_eq_addAll, Batch.addAll_eq (Validated.of_definitions definitions)]

theorem importText_of_items (registry : Registry) {payload : String} {definitions : List Json}
    (listed : Json.items? payload = some definitions) :
    registry.importText payload = .ok (registry.registerValues definitions) := by
  rw [importText, (Json.listOfText_eq_ok_iff payload definitions).mpr listed]

theorem importText_of_no_items (registry : Registry) {payload : String}
    (noList : Json.items? payload = none) :
    ∃ reason, registry.importText payload = .error (.notRuleSet reason) := by
  rw [importText]
  cases listed : Json.listOfText payload with
  | ok definitions =>
      rw [(Json.listOfText_eq_ok_iff payload definitions).mp listed] at noList
      contradiction
  | error reason => exact ⟨reason, rfl⟩

end Registry

end Compliance
