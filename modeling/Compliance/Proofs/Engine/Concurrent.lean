import Mathlib.Algebra.GroupWithZero.Nat
import Compliance.Proofs.Engine.Interleaving
import Compliance.Proofs.History

/-!
Serving calls at the same time compared with serving them one by one: the answers agree but for
what the clocks show, and the logs hold the same verdicts.
-/

namespace Compliance

open scoped List

namespace Engine

def gains (earlier later : Engine) : List (String × Bool) :=
  (later.history.entries.drop earlier.history.entries.length).map HistoryEntry.verdict

def verdictOn (engine : Engine) (document : Document) (id : String) : Option (String × Bool) :=
  (engine.registry.get? id).map fun rule =>
    (rule.id, (rule.condition.evaluate document engine.config.contextRadius).satisfied)

def verdicts (engine : Engine) (request : Request) : List (String × Bool) :=
  request.ids.filterMap (engine.verdictOn (Document.ofText request.text))

/-- The calls, served together, have the answers and leave the log that they would have had one by
one. Clocks may show anything in either case. -/
structure Refines (engine : Engine) (requests : List Request) (answers : List Aggregate)
    (last : Engine) : Prop where
  answered : ∀ clock, answers.map Aggregate.timeless = requests.map fun request =>
    (engine.evaluateMany request.ids request.text clock).1.timeless
  kept : engine.history.entries <+: last.history.entries
  recorded : ∀ clock, engine.gains last ~ requests.flatMap fun request =>
    engine.gains (engine.evaluateMany request.ids request.text clock).2
  counted : engine.config.recordHistory = true → (engine.gains last).length =
    (requests.map fun request => request.ids.countP engine.registry.contains).sum
  unrecorded : engine.config.recordHistory = false →
    last.history.entries = engine.history.entries

theorem gains_logAll (engine : Engine) (evaluations : List Evaluation) :
    engine.gains (engine.logAll evaluations) = if engine.config.recordHistory then
      evaluations.map fun evaluation => (HistoryEntry.ofEvaluation evaluation).verdict else [] := by
  rw [gains, logAll_entries, List.drop_left]
  split <;> simp

theorem evaluateMany_timeless (engine : Engine) (ids : List String) (text : String)
    (left right : Clock) :
    (engine.evaluateMany ids text left).1.timeless =
      (engine.evaluateMany ids text right).1.timeless := by
  simp only [evaluateMany, summarize, Aggregate.timeless_ofReports, reports_fst]
  rw [reportsOn_timeless engine _ left.rule right.rule]

theorem filterMap_zipIdx_fst {α β : Type} (f : α → Option β) (xs : List α) :
    xs.zipIdx.filterMap (fun (x, _) => f x) = xs.filterMap f := by
  conv => rhs; rw [← List.zipIdx_map_fst 0 xs, List.filterMap_map]
  rfl

theorem evaluationsOf_evaluateMany (engine : Engine) (number : Nat) (request : Request) :
    Aggregate.evaluationsOf
        (engine.evaluateMany request.ids request.text request.clock).1.reports =
      (engine.tasks number request).map fun task =>
        (task.finish engine.config.contextRadius).evaluation := by
  change Aggregate.evaluationsOf
    (engine.reports (Document.ofText request.text) request.clock.rule 0 request.ids).1 = _
  rw [reports_fst, Aggregate.evaluationsOf, List.filterMap_map, tasks, List.map_filterMap]
  apply List.filterMap_congr
  rintro ⟨id, position⟩ _
  cases known : engine.registry.get? id with
  | none => simp [reportOn_of_none known, missingRule, RuleReport.evaluation?, known]
  | some rule =>
      simp only [Function.comp_apply, reportOn_of_some known, RuleReport.evaluation?, known]
      rfl

theorem verdicts_of_tasks (engine : Engine) (number : Nat) (request : Request) :
    ((engine.tasks number request).map fun task => (HistoryEntry.ofEvaluation
      (task.finish engine.config.contextRadius).evaluation).verdict) =
        engine.verdicts request := by
  simp only [tasks, List.map_filterMap, Option.map_map]
  exact filterMap_zipIdx_fst (engine.verdictOn (Document.ofText request.text)) request.ids

theorem gains_evaluateMany (engine : Engine) (request : Request) (clock : Clock) :
    engine.gains (engine.evaluateMany request.ids request.text clock).2 =
      if engine.config.recordHistory then engine.verdicts request else [] := by
  have evaluations := engine.evaluationsOf_evaluateMany 0 ⟨request.ids, request.text, clock⟩
  have found := engine.verdicts_of_tasks 0 ⟨request.ids, request.text, clock⟩
  change Aggregate.evaluationsOf (engine.evaluateMany request.ids request.text clock).1.reports =
    _ at evaluations
  change _ = engine.verdicts request at found
  rw [evaluateMany_snd, gains_logAll, evaluations, List.map_map]
  exact congrArg (fun verdicts => if engine.config.recordHistory then verdicts else []) found

theorem map_allTasks {α : Type} (engine : Engine) (requests : List Request)
    (value : EvaluationTask → α) (ofRequest : Request → List α)
    (each : ∀ number request, (engine.tasks number request).map value = ofRequest request) :
    (engine.allTasks requests).map value = requests.flatMap ofRequest := by
  simp only [allTasks, List.map_flatMap, each]
  conv => rhs; rw [← List.zipIdx_map_fst 0 requests, List.flatMap_map]

theorem length_verdicts (engine : Engine) (request : Request) :
    (engine.verdicts request).length = request.ids.countP engine.registry.contains := by
  rw [verdicts, List.length_filterMap_eq_countP]
  apply List.countP_congr
  simp [verdictOn, Registry.contains]

end Engine

namespace Service

variable {start : Engine} {service : Service}

theorem Consistent.finished_of_idle (consistent : Consistent start service)
    (idle : service.Idle) :
    service.finished ~ (start.allTasks service.requests).map
      (EvaluationTask.finish start.config.contextRadius) := by
  simpa [idle.1, idle.2] using consistent.accounted

theorem Consistent.gains_of_idle (consistent : Consistent start service) (idle : service.Idle) :
    start.gains service.engine ~ if start.config.recordHistory then
      service.requests.flatMap start.verdicts else [] := by
  rw [consistent.logged, Engine.gains_logAll]
  split
  · rw [← start.map_allTasks service.requests _ _ start.verdicts_of_tasks]
    simpa [List.map_map, Function.comp_def] using (consistent.finished_of_idle idle).map
      fun done => (HistoryEntry.ofEvaluation done.evaluation).verdict
  · exact List.Perm.refl []

theorem served_of_idle (idle : service.Idle) (number : Nat) :
    service.Served number := by
  simp [Served, idle.1, idle.2]

theorem Consistent.answers_eq (consistent : Consistent start service) (idle : service.Idle) :
    service.answers = service.requests.map fun request =>
      (start.evaluateMany request.ids request.text request.clock).1 := by
  conv => rhs; rw [← List.zipIdx_map_fst 0 service.requests]
  rw [answers, List.map_map]
  apply List.map_congr_left
  rintro ⟨request, number⟩ member
  have asked := List.mk_mem_zipIdx_iff_getElem?.mp member
  exact consistent.answer_eq asked (served_of_idle idle number)

theorem Consistent.refines (consistent : Consistent start service) (idle : service.Idle) :
    start.Refines service.requests service.answers service.engine where
  answered clock := by
    rw [consistent.answers_eq idle, List.map_map]
    apply List.map_congr_left
    intro request _
    exact start.evaluateMany_timeless request.ids request.text request.clock clock
  kept := by
    rw [consistent.logged, Engine.logAll_entries]
    exact List.prefix_append _ _
  recorded clock := by
    refine (consistent.gains_of_idle idle).trans (List.Perm.of_eq ?_)
    simp only [Engine.gains_evaluateMany]
    split <;> simp
  counted recording := by
    rw [(consistent.gains_of_idle idle).length_eq]
    simp [recording, List.length_flatMap, Engine.length_verdicts]
  unrecorded silent := by
    rw [consistent.logged, Engine.logAll_entries]
    simp [silent]

/-- All tasks in the order of a schedule, each evaluated and appended in one go. -/
def scheduled (engine : Engine) (requests : List Request)
    (schedule : List EvaluationTask → List EvaluationTask) : Service :=
  let (finished, last) := engine.run (schedule (engine.allTasks requests))
  { engine := last, requests, finished }

theorem scheduled_idle (engine : Engine) (requests : List Request)
    (schedule : List EvaluationTask → List EvaluationTask) :
    (scheduled engine requests schedule).Idle := ⟨rfl, rfl⟩

theorem scheduled_consistent (engine : Engine) (requests : List Request)
    {schedule : List EvaluationTask → List EvaluationTask}
    (complete : ∀ tasks, schedule tasks ~ tasks) :
    Consistent engine (scheduled engine requests schedule) := by
  constructor
  · simp only [scheduled, Engine.run_eq]
  · simp only [scheduled, Engine.run_eq, List.map_nil, List.nil_append]
    exact (complete _).map _

end Service

namespace Engine

theorem collect_logAll (engine : Engine) (evaluations : List Evaluation) :
    (engine.logAll evaluations).collect = engine.collect := by
  funext finished number request
  simp only [collect, summarize, logAll_config, reportAt,
    missingRule_eq_of_registry (logAll_registry engine evaluations)]

theorem evaluateTogether_eq (engine : Engine) (requests : List Request)
    (schedule : List EvaluationTask → List EvaluationTask) :
    engine.evaluateTogether requests schedule =
      ((Service.scheduled engine requests schedule).answers,
        (Service.scheduled engine requests schedule).engine) := by
  simp only [evaluateTogether, Service.scheduled, Service.answers, Service.answer, run_eq,
    collect_logAll]
  rfl

theorem evaluateConcurrently_eq (engine : Engine) (request : Request)
    (schedule : List EvaluationTask → List EvaluationTask) :
    ([(engine.evaluateConcurrently request schedule).1],
        (engine.evaluateConcurrently request schedule).2) =
      engine.evaluateTogether [request] schedule := by
  simp [evaluateConcurrently, evaluateTogether]

/-- Concurrent serving refines serving in sequence, for calls that are served by a schedule of their
tasks and for tasks that interleave step by step with those of calls yet to come. -/
theorem concurrent_refines_sequential (engine : Engine) :
    (∀ requests schedule, (∀ tasks, schedule tasks ~ tasks) →
      engine.Refines requests (engine.evaluateTogether requests schedule).1
        (engine.evaluateTogether requests schedule).2) ∧
    (∀ request schedule, (∀ tasks, schedule tasks ~ tasks) →
      engine.Refines [request] [(engine.evaluateConcurrently request schedule).1]
        (engine.evaluateConcurrently request schedule).2) ∧
    ∀ service, Service.Reachable engine service →
      (service.Idle → engine.Refines service.requests service.answers service.engine) ∧
      ∀ number request, service.requests[number]? = some request → service.Served number →
        ∀ clock, (service.answer number request).timeless =
          (engine.evaluateMany request.ids request.text clock).1.timeless := by
  have together (requests : List Request) (schedule : List EvaluationTask → List EvaluationTask)
      (complete : ∀ tasks, schedule tasks ~ tasks) :
      engine.Refines requests (engine.evaluateTogether requests schedule).1
        (engine.evaluateTogether requests schedule).2 := by
    rw [evaluateTogether_eq]
    exact (Service.scheduled_consistent engine requests complete).refines
      (Service.scheduled_idle engine requests schedule)
  refine ⟨together, ?_, ?_⟩
  · intro request schedule complete
    have alone := together [request] schedule complete
    rwa [← evaluateConcurrently_eq] at alone
  · intro service reached
    have consistent := reached.consistent
    refine ⟨consistent.refines, ?_⟩
    intro number request asked served clock
    rw [consistent.answer_eq asked served]
    exact engine.evaluateMany_timeless request.ids request.text request.clock clock

/-- Two calls for the same rule, one of them twice and with an unknown id, whose tasks run in
reverse; and a call that is served step by step. -/
theorem concurrent_refines_sequential_reversed :
    let rule : Rule :=
      { id := "caution", source := "PACE", kind := .mandatoryProcedure
        condition := .anyPhrase ["cautioned"]
        onSuccess := { result := "OK", message := "given" }
        onFailure := { result := "KO", message := "missing" } }
    let engine : Engine := { registry := { rules := [("caution", rule)] } }
    let clock : Clock := ⟨fun _ => ⟨.epoch, 0⟩, ⟨.epoch, 0⟩⟩
    let single : Request := { ids := ["caution"], text := "He was cautioned.", clock }
    let twice : Request := { ids := ["caution", "ghost", "caution"], text := "He left.", clock }
    (∀ tasks : List EvaluationTask, tasks.reverse ~ tasks) ∧
    engine.Refines [single, twice] (engine.evaluateTogether [single, twice] List.reverse).1
      (engine.evaluateTogether [single, twice] List.reverse).2 ∧
    engine.Refines [twice] [(engine.evaluateConcurrently twice List.reverse).1]
      (engine.evaluateConcurrently twice List.reverse).2 ∧
    ∃ service, Service.Reachable engine service ∧ service.Idle ∧ service.requests = [single] ∧
      engine.Refines service.requests service.answers service.engine ∧
      (service.answer 0 single).timeless =
        (engine.evaluateMany single.ids single.text clock).1.timeless := by
  intro rule engine clock single twice
  have complete (tasks : List EvaluationTask) := tasks.reverse_perm
  have all := concurrent_refines_sequential engine
  refine ⟨complete, all.1 _ _ complete, all.2.1 _ _ complete, ?_⟩
  let task : EvaluationTask :=
    { request := 0, position := 0, rule, document := Document.ofText single.text
      clock := ⟨.epoch, 0⟩ }
  let done := task.finish engine.config.contextRadius
  let arrived : Service := { engine, requests := [single], waiting := [task] }
  let evaluated : Service := { engine, requests := [single], unlogged := [done] }
  let appended : Service :=
    { engine := engine.log done.evaluation, requests := [single], finished := [done] }
  have called : Service.Step { engine } arrived := Service.Step.call { engine } single
  have worked : Service.Step arrived evaluated := Service.Step.evaluate arrived [] [] task rfl
  have logged : Service.Step evaluated appended := Service.Step.append evaluated [] [] done rfl
  have reached : Service.Reachable engine appended := ((Relation.ReflTransGen.single called).tail
    worked).tail logged
  have idle : appended.Idle := ⟨rfl, rfl⟩
  have served : appended.Served 0 := Service.served_of_idle idle 0
  have outcome := all.2.2 appended reached
  exact ⟨appended, reached, idle, rfl, outcome.1 idle, outcome.2 0 single rfl served clock⟩

end Engine

end Compliance
