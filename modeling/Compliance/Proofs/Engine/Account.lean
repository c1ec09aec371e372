import Mathlib.Data.List.Forall2
import Compliance.Proofs.Engine.Operation

/-!
The log of a run held against what the callers were given. Each evaluation that was returned since
the log was last cleared has one entry, and nothing else has; what was logged, or whether anything
is, changes no answer.
-/

namespace Compliance

open scoped List

structure HistoryEntry.Records (entry : HistoryEntry) (evaluation : Evaluation) : Prop where
  ruleId : entry.ruleId = evaluation.ruleId
  compliant : entry.compliant = evaluation.compliant
  time : entry.time = evaluation.time
  milliseconds : entry.milliseconds = evaluation.milliseconds

def Evaluation.verdict (evaluation : Evaluation) : String × Bool :=
  (evaluation.ruleId, evaluation.compliant)

namespace Engine

/-- What the caller of an operation is given; of a registry operation, the rules it leaves. -/
inductive Answer where
  | rules (registry : Registry)
  | text (exported : String)
  | evaluation (evaluation : Evaluation)
  | refusal (refusal : Refusal)
  | aggregates (aggregates : List Aggregate)
  | nothing

def answer (engine : Engine) : Operation → Answer
  | .change operation => .rules (engine.registry.perform operation)
  | .exportRules => .text engine.registry.exportText
  | .evaluate id text clock =>
      match engine.evaluate id text clock with
      | .ok (evaluation, _) => .evaluation evaluation
      | .error refusal => .refusal refusal
  | .evaluateRule rule document clock =>
      .evaluation (engine.evaluateRule rule document clock).1
  | .evaluateMany ids text clock => .aggregates [(engine.evaluateMany ids text clock).1]
  | .evaluateAll text clock => .aggregates [(engine.evaluateAll text clock).1]
  | .evaluateTogether requests schedule =>
      .aggregates (engine.evaluateTogether requests schedule.order).1
  | .clearHistory => .nothing

def answers (engine : Engine) : List Operation → List Answer
  | [] => []
  | operation :: rest => engine.answer operation :: (engine.perform operation).answers rest

def Answer.evaluations : Answer → List Evaluation
  | evaluation found => [found]
  | aggregates all => all.flatMap Aggregate.evaluations
  | rules _ | text _ | refusal _ | nothing => []

def returned (engine : Engine) (operation : Operation) : List Evaluation :=
  (engine.answer operation).evaluations

/-- The ids of the rules that an operation evaluates; an id that is not registered is none. -/
def asked (engine : Engine) : Operation → List String
  | .change _ | .exportRules | .clearHistory => []
  | .evaluate id _ _ => [id].filter engine.registry.contains
  | .evaluateRule rule _ _ => [rule.id]
  | .evaluateMany ids _ _ => ids.filter engine.registry.contains
  | .evaluateAll _ _ => engine.registry.ids
  | .evaluateTogether requests _ =>
      requests.flatMap fun request => request.ids.filter engine.registry.contains

def Operation.clears : Operation → Bool
  | .clearHistory => true
  | _ => false

/-- What the operations give one after the other, anew from each clearing of the log. -/
def gathered (gives : Engine → Operation → List Evaluation) (engine : Engine)
    (sofar : List Evaluation) : List Operation → List Evaluation
  | [] => sofar
  | operation :: rest =>
      gathered gives (engine.perform operation)
        (if operation.clears then [] else sofar ++ gives engine operation) rest

def sinceCleared (gives : Engine → Operation → List Evaluation) (config : EngineConfig)
    (operations : List Operation) : List Evaluation :=
  gathered gives (withConfig config) [] operations

/-- The engines evaluate alike: they differ at most in their logs and in whether they keep one. -/
structure Alike (left right : Engine) : Prop where
  registry : left.registry = right.registry
  contextRadius : left.config.contextRadius = right.config.contextRadius
  criticalSeverity : left.config.criticalSeverity = right.config.criticalSeverity

section Entries

variable (engine : Engine)

theorem records_ofEvaluation (evaluation : Evaluation) :
    (HistoryEntry.ofEvaluation evaluation).Records evaluation := ⟨rfl, rfl, rfl, rfl⟩

theorem forall₂_records (evaluations : List Evaluation) :
    List.Forall₂ HistoryEntry.Records (evaluations.map HistoryEntry.ofEvaluation) evaluations :=
  List.forall₂_map_left_iff.mpr (List.forall₂_same.mpr fun evaluation _ =>
    records_ofEvaluation evaluation)

theorem entries_perform {operation : Operation} (keeps : operation.clears = false) :
    (engine.perform operation).history.entries = engine.history.entries ++
      if engine.config.recordHistory then
        (engine.made operation).map HistoryEntry.ofEvaluation else [] := by
  obtain ⟨change, rfl⟩ | rfl | ⟨_, logs⟩ := engine.perform_cases operation
  · simp [perform, withRegistry, made]
  · cases keeps
  · rw [logs, logAll_entries]

theorem Operation.eq_of_clears {operation : Operation} (clears : operation.clears = true) :
    operation = .clearHistory := by
  cases operation <;> first | rfl | cases clears

theorem entries_perform_of_clears {operation : Operation} (clears : operation.clears = true) :
    (engine.perform operation).history.entries = [] := by
  rw [Operation.eq_of_clears clears]
  rfl

theorem entries_performAll (recording : engine.config.recordHistory = true)
    {sofar : List Evaluation}
    (recorded : engine.history.entries = sofar.map HistoryEntry.ofEvaluation)
    (operations : List Operation) :
    (engine.performAll operations).history.entries =
      (gathered made engine sofar operations).map HistoryEntry.ofEvaluation := by
  -- before every operation the log holds what was gathered until then
  induction operations generalizing engine sofar with
  | nil => exact recorded
  | cons operation rest ih =>
      refine ih (engine.perform operation) (by rw [perform_config, recording]) ?_
      cases clears : operation.clears with
      | true => exact engine.entries_perform_of_clears clears
      | false => simp [engine.entries_perform clears, recording, recorded]

theorem entries_performAll_of_silent (silent : engine.config.recordHistory = false)
    (empty : engine.history.entries = []) (operations : List Operation) :
    (engine.performAll operations).history.entries = [] := by
  induction operations generalizing engine with
  | nil => exact empty
  | cons operation rest ih =>
      refine ih (engine.perform operation) (by rw [perform_config, silent]) ?_
      cases clears : operation.clears with
      | true => exact engine.entries_perform_of_clears clears
      | false => simp [engine.entries_perform clears, silent, empty]

end Entries

section Returned

variable (engine : Engine)

theorem evaluateTogether_fst (requests : List Request) (schedule : Schedule) :
    (engine.evaluateTogether requests schedule.order).1 = requests.map fun request =>
      (engine.evaluateMany request.ids request.text request.clock).1 := by
  rw [evaluateTogether_eq]
  exact (Service.scheduled_consistent engine requests schedule.complete).answers_eq
    (Service.scheduled_idle engine requests schedule.order)

theorem evaluateConcurrently_fst (request : Request)
    {schedule : List EvaluationTask → List EvaluationTask}
    (complete : ∀ tasks, schedule tasks ~ tasks) :
    (engine.evaluateConcurrently request schedule).1 =
      (engine.evaluateMany request.ids request.text request.clock).1 := by
  have alone := congrArg Prod.fst (engine.evaluateConcurrently_eq request schedule)
  rw [engine.evaluateTogether_fst [request] ⟨schedule, complete⟩] at alone
  exact List.singleton_inj.mp alone

theorem evaluations_of_allTasks (requests : List Request) :
    ((engine.allTasks requests).map fun task =>
        (task.finish engine.config.contextRadius).evaluation) =
      requests.flatMap fun request => Aggregate.evaluationsOf
        (engine.evaluateMany request.ids request.text request.clock).1.reports :=
  engine.map_allTasks requests _ _ fun number request =>
    (engine.evaluationsOf_evaluateMany number request).symm

theorem returned_evaluateMany (ids : List String) (text : String) (clock : Clock) :
    engine.returned (.evaluateMany ids text clock) =
      Aggregate.evaluationsOf (engine.evaluateMany ids text clock).1.reports :=
  List.flatMap_singleton ..

theorem returned_evaluateAll (text : String) (clock : Clock) :
    engine.returned (.evaluateAll text clock) =
      engine.returned (.evaluateMany engine.registry.ids text clock) :=
  rfl

theorem returned_evaluateTogether (requests : List Request) (schedule : Schedule) :
    engine.returned (.evaluateTogether requests schedule) =
      requests.flatMap fun request =>
        engine.returned (.evaluateMany request.ids request.text request.clock) := by
  simp only [returned_evaluateMany]
  rw [returned, answer, Answer.evaluations, evaluateTogether_fst, List.flatMap_map]
  rfl

theorem made_perm_returned (operation : Operation) :
    engine.made operation ~ engine.returned operation := by
  cases operation with
  | change operation => exact List.Perm.refl []
  | exportRules => exact List.Perm.refl []
  | clearHistory => exact List.Perm.refl []
  | evaluate id text clock =>
      rw [returned, made, answer]
      cases engine.evaluate id text clock <;> exact List.Perm.refl _
  | evaluateRule rule document clock => exact List.Perm.refl _
  | evaluateMany ids text clock =>
      rw [returned_evaluateMany]
      exact List.Perm.refl _
  | evaluateAll text clock =>
      rw [returned_evaluateAll, returned_evaluateMany]
      exact List.Perm.refl _
  | evaluateTogether requests schedule =>
      simp only [returned_evaluateTogether, returned_evaluateMany, ← evaluations_of_allTasks]
      exact (schedule.complete _).map _

theorem gathered_perm {first second : Engine → Operation → List Evaluation}
    (same : ∀ engine operation, first engine operation ~ second engine operation)
    {left right : List Evaluation} (sofar : left ~ right) (operations : List Operation) :
    gathered first engine left operations ~ gathered second engine right operations := by
  induction operations generalizing engine left right with
  | nil => exact sofar
  | cons operation rest ih =>
      apply ih
      split
      · exact List.Perm.refl []
      · exact sofar.append (same engine operation)

end Returned

section Asked

variable {engine : Engine} (kept : engine.registry.WellKept)

include kept

theorem filterMap_get? (ids : List String) :
    (ids.filterMap fun id => (engine.registry.get? id).map Rule.id) =
      ids.filter engine.registry.contains := by
  induction ids with
  | nil => rfl
  | cons id rest ih =>
      rw [List.filterMap_cons, List.filter_cons, ih, Registry.contains]
      cases known : engine.registry.get? id with
      | none => rfl
      | some rule =>
          rw [Option.map_some, kept.id_of_get? known]
          rfl

theorem ruleIds_evaluateMany (ids : List String) (text : String) (clock : Clock) :
    (engine.returned (.evaluateMany ids text clock)).map Evaluation.ruleId =
      ids.filter engine.registry.contains := by
  have evaluations := engine.evaluationsOf_evaluateMany 0 ⟨ids, text, clock⟩
  have found := congrArg (List.map Prod.fst) (engine.verdicts_of_tasks 0 ⟨ids, text, clock⟩)
  rw [verdicts, List.map_filterMap, List.map_map] at found
  simp only [verdictOn, Option.map_map] at found
  rw [returned_evaluateMany, ← filterMap_get? kept, evaluations, List.map_map]
  exact found

theorem ruleIds_returned (operation : Operation) :
    (engine.returned operation).map Evaluation.ruleId = engine.asked operation := by
  cases operation with
  | change operation => rfl
  | exportRules => rfl
  | clearHistory => rfl
  | evaluate id text clock =>
      rw [returned, answer, asked, ← filterMap_get? kept]
      cases known : engine.registry.get? id with
      | none => simp [evaluate_of_none known, Answer.evaluations, known]
      | some rule =>
          simp only [evaluate_of_some known, Answer.evaluations, known, List.filterMap_cons]
          rfl
  | evaluateRule rule document clock => rfl
  | evaluateMany ids text clock => exact ruleIds_evaluateMany kept ids text clock
  | evaluateAll text clock =>
      rw [returned_evaluateAll, ruleIds_evaluateMany kept, asked, List.filter_eq_self]
      intro id listed
      rw [Registry.contains, Option.isSome_iff_exists]
      exact (Keyed.mem_keys_iff id engine.registry.rules).mp listed
  | evaluateTogether requests schedule =>
      simp only [returned_evaluateTogether, List.map_flatMap, ruleIds_evaluateMany kept, asked]

end Asked

namespace Alike

variable {left right : Engine} (alike : left.Alike right)

include alike

theorem perform (operation : Operation) : (left.perform operation).Alike (right.perform operation)
    where
  registry := by rw [perform_registry, perform_registry, alike.registry]
  contextRadius := by rw [perform_config, perform_config, alike.contextRadius]
  criticalSeverity := by rw [perform_config, perform_config, alike.criticalSeverity]

theorem evaluateMany_fst (ids : List String) (text : String) (clock : Clock) :
    (left.evaluateMany ids text clock).1 = (right.evaluateMany ids text clock).1 := by
  have sameReports : left.reportOn = right.reportOn := by
    funext document moment id
    rw [reportOn, reportOn, alike.registry, alike.contextRadius,
      missingRule_eq_of_registry alike.registry]
  simp only [evaluateMany, summarize, reports_fst, sameReports, alike.criticalSeverity]

theorem answer_eq (operation : Operation) : left.answer operation = right.answer operation := by
  cases operation with
  | change operation => rw [answer, answer, alike.registry]
  | exportRules => rw [answer, answer, alike.registry]
  | evaluate id text clock =>
      rw [answer, answer]
      cases known : right.registry.get? id with
      | none =>
          have unknown : left.registry.get? id = none := by rw [alike.registry, known]
          rw [evaluate_of_none known, evaluate_of_none unknown, alike.registry]
      | some rule =>
          have found : left.registry.get? id = some rule := by rw [alike.registry, known]
          rw [evaluate_of_some known, evaluate_of_some found]
          simp only [evaluateRule, alike.contextRadius]
  | evaluateRule rule document clock =>
      simp only [answer, evaluateRule, alike.contextRadius]
  | evaluateMany ids text clock => rw [answer, answer, alike.evaluateMany_fst]
  | evaluateAll text clock =>
      rw [answer, answer, evaluateAll, evaluateAll, alike.registry, alike.evaluateMany_fst]
  | evaluateTogether requests schedule =>
      simp only [answer, evaluateTogether_fst, alike.evaluateMany_fst]
  | clearHistory => rfl

theorem answers_eq (operations : List Operation) :
    left.answers operations = right.answers operations := by
  induction operations generalizing left right with
  | nil => rfl
  | cons operation rest ih =>
      rw [answers, answers, alike.answer_eq, ih (alike.perform operation)]

end Alike

theorem alike_of_clears {left right : Engine} (alike : left.Alike right) {operation : Operation}
    (clears : operation.clears = true) : left.Alike (right.perform operation) := by
  rw [Operation.eq_of_clears clears]
  exact ⟨alike.registry, alike.contextRadius, alike.criticalSeverity⟩

theorem alike_performAll {left right : Engine} (alike : left.Alike right)
    (operations : List Operation) :
    (left.performAll (operations.filter fun operation => !operation.clears)).Alike
      (right.performAll operations) := by
  induction operations generalizing left right with
  | nil => exact alike
  | cons operation rest ih =>
      cases clears : operation.clears with
      | true =>
          rw [List.filter_cons_of_neg (by simp [clears])]
          exact ih (alike_of_clears alike clears)
      | false =>
          rw [List.filter_cons_of_pos (by simp [clears])]
          exact ih (alike.perform operation)

theorem entries_of_idle {start : Engine} (recording : start.config.recordHistory = true)
    {service : Service} (reached : Service.Reachable start service) (idle : service.Idle) :
    ∃ entries evaluations, service.engine.history.entries = start.history.entries ++ entries ∧
      List.Forall₂ HistoryEntry.Records entries evaluations ∧
      evaluations ~ service.answers.flatMap Aggregate.evaluations := by
  have consistent := reached.consistent
  let evaluations := service.finished.map FinishedTask.evaluation
  refine ⟨evaluations.map HistoryEntry.ofEvaluation, evaluations, ?_, forall₂_records _, ?_⟩
  · rw [consistent.logged, logAll_entries, if_pos recording]
  · have all := (consistent.finished_of_idle idle).map FinishedTask.evaluation
    rw [List.map_map] at all
    rw [consistent.answers_eq idle, List.flatMap_map]
    exact all.trans (List.Perm.of_eq (start.evaluations_of_allTasks service.requests))

/-- The log of a run accounts for what the callers were given since it was last cleared. -/
structure Accounts (config : EngineConfig) (operations : List Operation) (engine : Engine) :
    Prop where
  recorded : config.recordHistory = true →
    List.Forall₂ HistoryEntry.Records engine.history.entries (sinceCleared made config operations)
  given : sinceCleared made config operations ~ sinceCleared returned config operations
  unrecorded : config.recordHistory = false → engine.history.entries = []
  asked : ∀ operation,
    (engine.returned operation).map Evaluation.ruleId = engine.asked operation
  complete : engine.chronicle ~ engine.history.entries
  sorted : engine.chronicle.Pairwise fun earlier later =>
    later.time.isBefore earlier.time = false
  stable : ∀ time, (engine.chronicle.filter fun entry => entry.time == time) =
    engine.history.entries.filter fun entry => entry.time == time
  counted : engine.statistics.Counts (if config.recordHistory then
    (sinceCleared returned config operations).map Evaluation.verdict else [])
  undisturbed : ∀ recording later,
    let other := after { config with recordHistory := recording }
      (operations.filter fun operation => !operation.clears)
    other.registry = engine.registry ∧ other.answers later = engine.answers later
  interleaved : config.recordHistory = true →
    ∀ service, Service.Reachable engine service → service.Idle →
      ∃ entries evaluations, service.engine.history.entries = engine.history.entries ++ entries ∧
        List.Forall₂ HistoryEntry.Records entries evaluations ∧
        evaluations ~ service.answers.flatMap Aggregate.evaluations

theorem verdict_ofEvaluation (evaluations : List Evaluation) :
    (evaluations.map HistoryEntry.ofEvaluation).map HistoryEntry.verdict =
      evaluations.map Evaluation.verdict := by
  rw [List.map_map]
  rfl

/-- Whatever was done to an engine, its log accounts for the evaluations that were returned. -/
theorem after_accounts (config : EngineConfig) (operations : List Operation) :
    Accounts config operations (after config operations) := by
  have configured : (after config operations).config = config :=
    performAll_config (withConfig config) operations
  have kept : (after config operations).registry.WellKept := by
    rw [after_registry]
    exact Registry.wellKept_run (operations.flatMap Operation.changes)
  have given : sinceCleared made config operations ~ sinceCleared returned config operations :=
    gathered_perm (withConfig config) made_perm_returned (List.Perm.refl []) operations
  have logged : config.recordHistory = true → (after config operations).history.entries =
      (sinceCleared made config operations).map HistoryEntry.ofEvaluation := fun recording =>
    (withConfig config).entries_performAll recording rfl operations
  have silent : config.recordHistory = false →
      (after config operations).history.entries = [] := fun silent =>
    (withConfig config).entries_performAll_of_silent silent rfl operations
  have counts := HistoryStatistics.counts_ofEntries (after config operations).history.entries
  constructor
  case recorded =>
    intro recording
    rw [logged recording]
    exact forall₂_records _
  case given => exact given
  case unrecorded => exact silent
  case asked => exact ruleIds_returned kept
  case complete => exact (after config operations).history.chronological_perm
  case sorted => exact (after config operations).history.chronological_sorted
  case stable => exact (after config operations).history.filter_chronological
  case counted =>
    cases recording : config.recordHistory with
    | true =>
        rw [logged recording, verdict_ofEvaluation] at counts
        rw [statistics, History.statistics, logged recording]
        exact counts.of_perm (given.map Evaluation.verdict)
    | false =>
        rw [silent recording] at counts
        rw [statistics, History.statistics, silent recording]
        exact counts
  case undisturbed =>
    intro recording later other
    have fresh : (withConfig { config with recordHistory := recording }).Alike
      (withConfig config) := ⟨rfl, rfl, rfl⟩
    have alike : other.Alike (after config operations) := alike_performAll fresh operations
    exact ⟨alike.registry, alike.answers_eq later⟩
  case interleaved =>
    intro recording service reached idle
    exact entries_of_idle (by rw [configured, recording]) reached idle

end Engine

end Compliance
