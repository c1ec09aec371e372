import Compliance.Proofs.Engine.Concurrent
import Compliance.Proofs.Registry.Latest

/-!
Runs of engine operations. Evaluating, by whichever entry, only appends to the log, so the settings
stay as they were made and the rules are those of the registry operations in the run alone.
-/

namespace Compliance

open scoped List

/-- An order for tasks that run at the same time: none is left out and none done twice. -/
structure Schedule where
  order : List EvaluationTask → List EvaluationTask
  complete : ∀ tasks, order tasks ~ tasks

namespace Engine

inductive Operation where
  | change (operation : Registry.Operation)
  | exportRules
  | evaluate (id text : String) (clock : ClockReading)
  | evaluateRule (rule : Rule) (document : Document) (clock : ClockReading)
  | evaluateMany (ids : List String) (text : String) (clock : Clock)
  | evaluateAll (text : String) (clock : Clock)
  | evaluateTogether (requests : List Request) (schedule : Schedule)
  | clearHistory

/-- The engine after an operation; one that fails leaves it alone. -/
def perform (engine : Engine) : Operation → Engine
  | .change operation => engine.withRegistry (engine.registry.perform operation)
  | .exportRules => engine
  | .evaluate id text clock =>
      match engine.evaluate id text clock with
      | .ok (_, next) => next
      | .error _ => engine
  | .evaluateRule rule document clock => (engine.evaluateRule rule document clock).2
  | .evaluateMany ids text clock => (engine.evaluateMany ids text clock).2
  | .evaluateAll text clock => (engine.evaluateAll text clock).2
  | .evaluateTogether requests schedule => (engine.evaluateTogether requests schedule.order).2
  | .clearHistory => engine.clearHistory

def performAll (engine : Engine) (operations : List Operation) : Engine :=
  operations.foldl perform engine

/-- The engine that was made with these settings and put through the operations. -/
def after (config : EngineConfig) (operations : List Operation) : Engine :=
  (withConfig config).performAll operations

def Operation.changes : Operation → List Registry.Operation
  | .change operation => [operation]
  | _ => []

/-- The evaluations that an operation makes, in the order in which they reach the log. -/
def made (engine : Engine) : Operation → List Evaluation
  | .change _ | .exportRules | .clearHistory => []
  | .evaluate id text clock =>
      match engine.evaluate id text clock with
      | .ok (evaluation, _) => [evaluation]
      | .error _ => []
  | .evaluateRule rule document clock => [(engine.evaluateRule rule document clock).1]
  | .evaluateMany ids text clock =>
      Aggregate.evaluationsOf (engine.evaluateMany ids text clock).1.reports
  | .evaluateAll text clock => Aggregate.evaluationsOf (engine.evaluateAll text clock).1.reports
  | .evaluateTogether requests schedule =>
      (schedule.order (engine.allTasks requests)).map fun task =>
        (task.finish engine.config.contextRadius).evaluation

theorem evaluate_of_some {engine : Engine} {id : String} {rule : Rule}
    (known : engine.registry.get? id = some rule) (text : String) (clock : ClockReading) :
    engine.evaluate id text clock =
      .ok (engine.evaluateRule rule (Document.ofText text) clock) := by
  rw [evaluate, known]

theorem evaluate_of_none {engine : Engine} {id : String}
    (unknown : engine.registry.get? id = none) (text : String) (clock : ClockReading) :
    engine.evaluate id text clock = .error (.unknownRule id engine.registry.ids) := by
  rw [evaluate, unknown, unknownRule]

theorem evaluateTogether_snd (engine : Engine) (requests : List Request)
    (schedule : List EvaluationTask → List EvaluationTask) :
    (engine.evaluateTogether requests schedule).2 = engine.logAll
      ((schedule (engine.allTasks requests)).map fun task =>
        (task.finish engine.config.contextRadius).evaluation) := by
  simp only [evaluateTogether_eq, Service.scheduled, run_eq, List.map_map]
  rfl

theorem perform_cases (engine : Engine) (operation : Operation) :
    (∃ change, operation = .change change) ∨ operation = .clearHistory ∨
      operation.changes = [] ∧ engine.perform operation = engine.logAll (engine.made operation) := by
  cases operation with
  | change operation => exact .inl ⟨operation, rfl⟩
  | exportRules => exact .inr (.inr ⟨rfl, rfl⟩)
  | evaluate id text clock =>
      refine .inr (.inr ⟨rfl, ?_⟩)
      rw [perform, made]
      cases known : engine.registry.get? id with
      | some rule =>
          rw [evaluate_of_some known]
          rfl
      | none =>
          rw [evaluate_of_none known]
          rfl
  | evaluateRule rule document clock => exact .inr (.inr ⟨rfl, rfl⟩)
  | evaluateMany ids text clock =>
      exact .inr (.inr ⟨rfl, engine.evaluateMany_snd ids text clock⟩)
  | evaluateAll text clock =>
      exact .inr (.inr ⟨rfl, engine.evaluateMany_snd engine.registry.ids text clock⟩)
  | evaluateTogether requests schedule =>
      exact .inr (.inr ⟨rfl, engine.evaluateTogether_snd requests schedule.order⟩)
  | clearHistory => exact .inr (.inl rfl)

@[simp] theorem perform_config (engine : Engine) (operation : Operation) :
    (engine.perform operation).config = engine.config := by
  obtain ⟨change, rfl⟩ | rfl | ⟨_, logs⟩ := engine.perform_cases operation
  · rfl
  · rfl
  · rw [logs, logAll_config]

theorem perform_registry (engine : Engine) (operation : Operation) :
    (engine.perform operation).registry =
      operation.changes.foldl Registry.perform engine.registry := by
  obtain ⟨change, rfl⟩ | rfl | ⟨unchanged, logs⟩ := engine.perform_cases operation
  · rfl
  · rfl
  · rw [logs, logAll_registry, unchanged, List.foldl_nil]

@[simp] theorem performAll_config (engine : Engine) (operations : List Operation) :
    (engine.performAll operations).config = engine.config := by
  induction operations generalizing engine with
  | nil => rfl
  | cons operation rest ih => rw [performAll, List.foldl_cons, ← performAll, ih, perform_config]

theorem performAll_registry (engine : Engine) (operations : List Operation) :
    (engine.performAll operations).registry =
      (operations.flatMap Operation.changes).foldl Registry.perform engine.registry := by
  induction operations generalizing engine with
  | nil => rfl
  | cons operation rest ih =>
      rw [performAll, List.foldl_cons, ← performAll, ih, perform_registry, List.flatMap_cons,
        List.foldl_append]

theorem after_registry (config : EngineConfig) (operations : List Operation) :
    (after config operations).registry =
      Registry.run (operations.flatMap Operation.changes) :=
  performAll_registry (withConfig config) operations

/-- An operation has a say in the rule under the id if one of its registry operations has. -/
def Operation.Touches (id : String) (operation : Operation) : Prop :=
  ∃ change ∈ operation.changes, change.Touches id

theorem get?_performAll_of_not_touches (engine : Engine) {operations : List Operation}
    {id : String} (untouched : ∀ operation ∈ operations, ¬ operation.Touches id) :
    (engine.performAll operations).registry.get? id = engine.registry.get? id := by
  rw [performAll_registry]
  refine engine.registry.get?_performAll_of_not_touches fun change listed touches => ?_
  obtain ⟨operation, member, own⟩ := List.mem_flatMap.mp listed
  exact untouched operation member ⟨change, own, touches⟩

end Engine

end Compliance
