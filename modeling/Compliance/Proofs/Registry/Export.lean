import Compliance.Proofs.Json.RoundTrip
import Compliance.Proofs.Registry.Accepted

/-!
Importing what was exported. The registry comes back as it was, unless a condition is nested too
deep for the reader, which limits the depth of the text where registering does not.
-/

namespace Compliance

namespace Registry

def wholeBatch (registry : Registry) : Batch where
  registry := registry
  summary := { total := registry.size, successful := registry.size }

/-- The exported text is imported without a complaint, and gives the registry back, both when one
starts afresh and when its rules are all there. -/
structure RoundTrips (registry : Registry) : Prop where
  afresh : empty.importText registry.exportText = .ok registry.wholeBatch
  again : registry.importText registry.exportText = .ok registry.wholeBatch

/-- No condition is nested deeper than the reader allows inside the object of a rule and the list of
all rules. -/
def Shallow (registry : Registry) : Prop :=
  ∀ rule ∈ registry.toList, rule.condition.nesting + 2 ≤ Json.nestingLimit

theorem addAll_valid {rules : List Rule} (valid : ∀ rule ∈ rules, rule.Valid) (batch : Batch) :
    (rules.map .ok).foldl Batch.add batch =
      { registry := batch.registry.holding rules
        summary := { batch.summary with
          total := batch.summary.total + rules.length
          successful := batch.summary.successful + rules.length } } := by
  have validated : Validated (rules.map .ok) := by
    intro rule listed
    rw [← mem_acceptedRules, acceptedRules_ok] at listed
    exact valid rule listed
  rw [Batch.addAll_eq validated, acceptedRules_ok, rejectionsFrom_ok]
  simp

namespace WellKept

variable {registry : Registry} (kept : registry.WellKept)
include kept

theorem valid_of_mem_toList : ∀ rule ∈ registry.toList, rule.Valid := by
  intro rule member
  obtain ⟨entry, stored, rfl⟩ := List.mem_map.mp member
  exact kept.valid entry stored

theorem entries_toList : (registry.toList.map fun rule => (rule.id, rule)) = registry.rules := by
  rw [toList, List.map_map]
  refine (List.map_congr_left ?_).trans (List.map_id _)
  intro entry stored
  exact Prod.ext (kept.keyed entry stored) rfl

theorem ofJson_sortedItems :
    (Json.sortedItems (registry.toList.map Rule.toJson)).map Rule.ofJson =
      registry.toList.map .ok := by
  rw [Json.sortedItems_eq_map, List.map_map, List.map_map]
  apply List.map_congr_left
  intro rule member
  exact (kept.valid_of_mem_toList rule member).ofJson_toJson

theorem registerValues_written (target : Registry) :
    target.registerValues (Json.sortedItems (registry.toList.map Rule.toJson)) =
      { registry := ⟨Keyed.insertAll registry.rules target.rules⟩
        summary := { total := registry.size, successful := registry.size } } := by
  have count : registry.toList.length = registry.size := by simp [toList, size]
  rw [registerValues_eq_addAll, kept.ofJson_sortedItems, addAll_valid kept.valid_of_mem_toList,
    holding, kept.entries_toList, count]
  simp

theorem height_le_iff_shallow :
    (Json.array (registry.toList.map Rule.toJson)).height ≤ Json.nestingLimit ↔
      registry.Shallow := by
  have limit : Json.nestingLimit = 126 + 1 := rfl
  rw [Json.height, Shallow, limit, Nat.add_le_add_iff_right, Json.itemsHeight_le_iff,
    List.forall_mem_map]
  refine forall₂_congr fun rule member => ?_
  rw [Rule.height_toJson (kept.valid_of_mem_toList rule member).sound]
  exact Nat.succ_le_succ_iff.symm

theorem listOfText_exportText :
    (registry.Shallow → Json.listOfText registry.exportText =
        .ok (Json.sortedItems (registry.toList.map Rule.toJson))) ∧
      (¬ registry.Shallow → ∃ fault : Json.Fault, fault.cause = .nestedTooDeep ∧
        Json.listOfText registry.exportText =
          .error (fault.message registry.exportText.toList)) := by
  rw [← kept.height_le_iff_shallow]
  apply Json.listOfText_pretty
  intro item member
  obtain ⟨rule, _, rfl⟩ := List.mem_map.mp member
  exact rule.numberless_toJson

theorem roundTrips_of_shallow (shallow : registry.Shallow) : registry.RoundTrips := by
  have read := kept.listOfText_exportText.1 shallow
  constructor
  · rw [importText, read]
    dsimp only
    rw [kept.registerValues_written]
    have whole : Keyed.insertAll registry.rules [] = registry.rules := kept.ascending.ofList_eq
    rw [empty, whole]
    rfl
  · rw [importText, read]
    dsimp only
    rw [kept.registerValues_written, kept.ascending.insertAll_of_mem fun entry stored => stored]
    rfl

theorem importText_of_not_shallow (deep : ¬ registry.Shallow) (target : Registry) :
    ∃ fault : Json.Fault, fault.cause = .nestedTooDeep ∧ target.importText registry.exportText =
      .error (.notRuleSet (fault.message registry.exportText.toList)) := by
  obtain ⟨fault, cause, refused⟩ := kept.listOfText_exportText.2 deep
  exact ⟨fault, cause, by rw [importText, refused]⟩

theorem roundTrips_iff : registry.RoundTrips ↔ registry.Shallow := by
  refine ⟨?_, kept.roundTrips_of_shallow⟩
  intro roundTrips
  by_contra deep
  obtain ⟨fault, _, refused⟩ := kept.importText_of_not_shallow deep empty
  rw [roundTrips.afresh] at refused
  simp at refused

end WellKept

/-- Whatever was done to a registry, its export is imported again if no condition is nested too
deep, and turned down whole, whatever registry it is meant for, if one is. -/
theorem roundTrips_iff_shallow (operations : List Operation) :
    ((run operations).RoundTrips ↔ (run operations).Shallow) ∧
      (¬ (run operations).Shallow → ∀ target : Registry, ∃ fault : Json.Fault,
        fault.cause = .nestedTooDeep ∧ target.importText (run operations).exportText =
          .error (.notRuleSet (fault.message (run operations).exportText.toList))) :=
  ⟨(wellKept_run operations).roundTrips_iff, (wellKept_run operations).importText_of_not_shallow⟩

theorem run_register {rule : Rule} (valid : rule.Valid) :
    run [.register rule] = ⟨[(rule.id, rule)]⟩ := by
  change (empty.register rule).2 = _
  rw [register, tryRegister_of_valid empty valid]
  rfl

def negatedRule (count : Nat) : Rule where
  id := "deep"
  source := "S"
  kind := .mandatoryProcedure
  condition := (Condition.allOf [.element ⟨"x", ["x"], true⟩]).negated count
  onSuccess := { result := "ok", message := "m" }
  onFailure := { result := "bad", message := "m" }

theorem negatedRule_sound (count : Nat) : (negatedRule count).condition.Sound := by
  apply Condition.Sound.negated
  rw [← Condition.check_eq_ok_iff]
  decide

theorem negatedRule_valid (count : Nat) : (negatedRule count).Valid := by
  have checked := (Condition.check_eq_ok_iff _).mpr (negatedRule_sound count)
  have nothing : (negatedRule count).complaints = [] := by
    rw [Rule.complaints, Rule.conditionComplaints, checked]
    change [] ++ Rule.blankComplaints "id" "deep" ++
      Rule.outcomeComplaints "on_failure" { result := "bad", message := "m" } ++
      Rule.outcomeComplaints "on_success" { result := "ok", message := "m" } ++
      Rule.blankComplaints "source" "S" = []
    decide
  rw [Rule.Valid, Rule.validated, nothing]

theorem shallow_negatedRule (count : Nat) :
    (run [.register (negatedRule count)]).Shallow ↔ count ≤ 60 := by
  rw [run_register (negatedRule_valid count), Shallow]
  change (∀ rule ∈ [negatedRule count], rule.condition.nesting + 2 ≤ 127) ↔ count ≤ 60
  rw [List.forall_mem_singleton, negatedRule, Condition.nesting_negated]
  change 4 + 2 * count + 2 ≤ 127 ↔ count ≤ 60
  omega

/-- The sixty-first negation is the one too many. -/
theorem roundTrips_iff_shallow_negatedRule :
    (run [.register (negatedRule 60)]).RoundTrips ∧
      ¬ (run [.register (negatedRule 61)]).RoundTrips := by
  rw [(roundTrips_iff_shallow [.register (negatedRule 60)]).1,
    (roundTrips_iff_shallow [.register (negatedRule 61)]).1, shallow_negatedRule,
    shallow_negatedRule]
  decide

end Registry

end Compliance
