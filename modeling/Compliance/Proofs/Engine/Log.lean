import Compliance.Engine

/-!
What evaluating leaves behind. An engine evaluates with its settings and its rules, which stay as
they are, and appends to its log; so a list of ids gives one report each, and a list of tasks one
evaluation each, whatever was logged before.
-/

namespace Compliance

def EvaluationTask.finish (radius : Nat) (task : EvaluationTask) : FinishedTask where
  request := task.request
  position := task.position
  evaluation := task.rule.evaluate task.document radius task.clock

namespace Engine

def logAll (engine : Engine) (evaluations : List Evaluation) : Engine :=
  evaluations.foldl log engine

def reportOn (engine : Engine) (document : Document) (clock : ClockReading) (id : String) :
    RuleReport :=
  match engine.registry.get? id with
  | some rule => .evaluated (rule.evaluate document engine.config.contextRadius clock)
  | none => engine.missingRule id

theorem reportOn_of_some {engine : Engine} {id : String} {rule : Rule}
    (known : engine.registry.get? id = some rule) (document : Document) (clock : ClockReading) :
    engine.reportOn document clock id =
      .evaluated (rule.evaluate document engine.config.contextRadius clock) := by
  simp only [reportOn, known]

theorem reportOn_of_none {engine : Engine} {id : String}
    (unknown : engine.registry.get? id = none) (document : Document) (clock : ClockReading) :
    engine.reportOn document clock id = engine.missingRule id := by
  simp only [reportOn, unknown]

@[simp] theorem log_registry (engine : Engine) (evaluation : Evaluation) :
    (engine.log evaluation).registry = engine.registry := by
  unfold log
  split <;> rfl

@[simp] theorem log_config (engine : Engine) (evaluation : Evaluation) :
    (engine.log evaluation).config = engine.config := by
  unfold log
  split <;> rfl

theorem log_entries (engine : Engine) (evaluation : Evaluation) :
    (engine.log evaluation).history.entries = engine.history.entries ++
      if engine.config.recordHistory then [HistoryEntry.ofEvaluation evaluation] else [] := by
  unfold log
  split <;> simp [History.record]

@[simp] theorem logAll_nil (engine : Engine) : engine.logAll [] = engine := rfl

@[simp] theorem logAll_cons (engine : Engine) (evaluation : Evaluation) (rest : List Evaluation) :
    engine.logAll (evaluation :: rest) = (engine.log evaluation).logAll rest := rfl

theorem logAll_append (engine : Engine) (first second : List Evaluation) :
    engine.logAll (first ++ second) = (engine.logAll first).logAll second :=
  List.foldl_append

@[simp] theorem logAll_registry (engine : Engine) (evaluations : List Evaluation) :
    (engine.logAll evaluations).registry = engine.registry := by
  induction evaluations generalizing engine with
  | nil => rfl
  | cons evaluation rest ih => rw [logAll_cons, ih, log_registry]

@[simp] theorem logAll_config (engine : Engine) (evaluations : List Evaluation) :
    (engine.logAll evaluations).config = engine.config := by
  induction evaluations generalizing engine with
  | nil => rfl
  | cons evaluation rest ih => rw [logAll_cons, ih, log_config]

/-- The log grows by one entry for each evaluation, or not at all. -/
theorem logAll_entries (engine : Engine) (evaluations : List Evaluation) :
    (engine.logAll evaluations).history.entries = engine.history.entries ++
      if engine.config.recordHistory then evaluations.map HistoryEntry.ofEvaluation else [] := by
  induction evaluations generalizing engine with
  | nil => simp
  | cons evaluation rest ih =>
      rw [logAll_cons, ih, log_entries, log_config, List.append_assoc]
      split <;> simp

theorem missingRule_eq_of_registry {left right : Engine} (same : left.registry = right.registry)
    (id : String) : left.missingRule id = right.missingRule id := by
  rw [missingRule, missingRule, same]

theorem reportOn_log (engine : Engine) (evaluation : Evaluation) :
    (engine.log evaluation).reportOn = engine.reportOn := by
  funext document clock id
  rw [reportOn, reportOn, log_registry, log_config,
    missingRule_eq_of_registry (log_registry engine evaluation)]

theorem reports_fst (engine : Engine) (document : Document) (clock : Nat → ClockReading)
    (position : Nat) (ids : List String) :
    (engine.reports document clock position ids).1 =
      (ids.zipIdx position).map fun (id, index) => engine.reportOn document (clock index) id := by
  induction ids generalizing engine position with
  | nil => rfl
  | cons id rest ih =>
      cases known : engine.registry.get? id with
      | none =>
          simp only [reports, known, ih engine, List.zipIdx_cons, List.map_cons,
            reportOn_of_none known]
      | some rule =>
          simp only [reports, known, evaluateRule, ih (engine.log _), reportOn_log,
            List.zipIdx_cons, List.map_cons, reportOn_of_some known]

theorem reports_snd (engine : Engine) (document : Document) (clock : Nat → ClockReading)
    (position : Nat) (ids : List String) :
    (engine.reports document clock position ids).2 = engine.logAll
      (Aggregate.evaluationsOf (engine.reports document clock position ids).1) := by
  induction ids generalizing engine position with
  | nil => rfl
  | cons id rest ih =>
      rw [reports]
      cases engine.registry.get? id with
      | none =>
          simp only [ih engine]
          rfl
      | some rule =>
          simp only [evaluateRule, ih (engine.log _)]
          rfl

theorem evaluateMany_snd (engine : Engine) (ids : List String) (text : String) (clock : Clock) :
    (engine.evaluateMany ids text clock).2 = engine.logAll
      (Aggregate.evaluationsOf (engine.evaluateMany ids text clock).1.reports) :=
  engine.reports_snd (Document.ofText text) clock.rule 0 ids

theorem run_eq (engine : Engine) (tasks : List EvaluationTask) :
    engine.run tasks =
      (tasks.map (EvaluationTask.finish engine.config.contextRadius),
        engine.logAll ((tasks.map (EvaluationTask.finish engine.config.contextRadius)).map
          FinishedTask.evaluation)) := by
  induction tasks generalizing engine with
  | nil => rfl
  | cons task rest ih =>
      simp only [run, evaluateRule, ih, log_config, List.map_cons, logAll_cons]
      rfl

end Engine

end Compliance
