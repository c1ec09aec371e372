import Compliance.Proofs.Condition.Views
import Compliance.Proofs.Engine.Account

/-!
What the settings of an engine have a say in. The radius decides how much context the evidence is
quoted with, the critical severity under which heading a failure is listed, and the last setting
whether there is a log; verdicts, counts and reports are the same under all of them.
-/

namespace Compliance

open scoped List

def Evidence.bare (item : Evidence) : Evidence := { item with context := "" }

/-- The evaluation apart from the contexts of its evidence and from what the clock showed. -/
def Evaluation.bare (evaluation : Evaluation) : Evaluation :=
  { evaluation.timeless with evidence := evaluation.evidence.map Evidence.bare }

def RuleReport.bare : RuleReport → RuleReport
  | evaluated evaluation => evaluated evaluation.bare
  | error missing => error missing

theorem Document.find_bare (document : Document) (left right : Nat) (phrase : String) :
    (document.find left phrase).map Evidence.bare =
      (document.find right phrase).map Evidence.bare := by
  have item (needle : String) (sentence form : String) (index : Nat) :
      (Evidence.at? left phrase needle document.sentences sentence form index).map Evidence.bare =
        (Evidence.at? right phrase needle document.sentences sentence form index).map
          Evidence.bare := by
    rw [Evidence.at?, Evidence.at?, Option.map_map, Option.map_map]
    rfl
  rw [find, find, Evidence.scan, Evidence.scan]
  simp only
  split
  · rfl
  · simp only [List.map_filterMap, item]

theorem Rule.bare_evaluate (rule : Rule) (document : Document) (left right : Nat)
    (now later : ClockReading) :
    (rule.evaluate document left now).bare = (rule.evaluate document right later).bare := by
  have same : Verdict.SameBy Evidence.bare (rule.condition.evaluate document left)
      (rule.condition.evaluate document right) :=
    Condition.verdict_of_same (document.find_bare left right) rule.condition
  simp only [Rule.evaluate, Evaluation.ofVerdict, Evaluation.bare, Evaluation.timeless,
    same.satisfied, same.missing, same.details, same.vacuous, same.evidence]

namespace Aggregate

def failures (aggregate : Aggregate) : List (String × String × String) :=
  (aggregate.criticalFailures.map fun failure =>
      (failure.ruleId, failure.source, failure.message)) ++
    aggregate.warnings.map fun warning => (warning.ruleId, warning.source, warning.detail)

def unlisted (aggregate : Aggregate) : Aggregate :=
  { aggregate with criticalFailures := [], warnings := [] }

/-- The aggregates differ at most in contexts, moments and in the headings of their failures. -/
structure SameVerdict (left right : Aggregate) : Prop where
  total : left.total = right.total
  compliant : left.compliant = right.compliant
  nonCompliant : left.nonCompliant = right.nonCompliant
  errors : left.errors = right.errors
  overallCompliant : left.overallCompliant = right.overallCompliant
  reports : left.reports.map RuleReport.bare = right.reports.map RuleReport.bare
  failures : left.failures ~ right.failures

section Reports

variable {left right : List RuleReport}
  (same : left.map RuleReport.bare = right.map RuleReport.bare)

include same

theorem evaluationsOf_bare :
    (evaluationsOf left).map Evaluation.bare = (evaluationsOf right).map Evaluation.bare := by
  have seen (report : RuleReport) :
      report.bare.evaluation? = report.evaluation?.map Evaluation.bare := by
    cases report <;> rfl
  rw [← evaluationsOf_map seen, same, evaluationsOf_map seen]

theorem failuresOf_bare :
    (failuresOf left).map Evaluation.bare = (failuresOf right).map Evaluation.bare := by
  have failing (reports : List RuleReport) : (failuresOf reports).map Evaluation.bare =
      ((evaluationsOf reports).map Evaluation.bare).filter
        fun evaluation => !evaluation.compliant := by
    rw [List.filter_map]
    rfl
  rw [failing, failing, evaluationsOf_bare same]

theorem countP_compliant_bare :
    (evaluationsOf left).countP Evaluation.compliant =
      (evaluationsOf right).countP Evaluation.compliant := by
  have counted (reports : List RuleReport) :
      (evaluationsOf reports).countP Evaluation.compliant =
        ((evaluationsOf reports).map Evaluation.bare).countP Evaluation.compliant := by
    rw [List.countP_map]
    rfl
  rw [counted, counted, evaluationsOf_bare same]

theorem countP_errors_bare :
    left.countP (fun report => report.evaluation?.isNone) =
      right.countP fun report => report.evaluation?.isNone := by
  have counted (reports : List RuleReport) :
      reports.countP (fun report => report.evaluation?.isNone) =
        (reports.map RuleReport.bare).countP fun report => report.evaluation?.isNone := by
    rw [List.countP_map]
    congr 1
    funext report
    cases report <;> rfl
  rw [counted left, same, ← counted right]

end Reports

theorem failures_ofReports (criticalAt : Severity) (reports : List RuleReport)
    (clock : ClockReading) :
    (ofReports criticalAt reports clock).failures ~ (failuresOf reports).map fun failure =>
      (failure.ruleId, failure.source, failure.outcome.message) := by
  have headings := List.filter_append_perm (Evaluation.isCritical criticalAt) (failuresOf reports)
  have told := headings.map fun failure =>
    (failure.ruleId, failure.source, failure.outcome.message)
  rw [List.map_append] at told
  simp only [failures, ofReports, List.map_map]
  exact told

theorem sameVerdict_ofReports {left right : List RuleReport}
    (same : left.map RuleReport.bare = right.map RuleReport.bare) (leftAt rightAt : Severity)
    (now later : ClockReading) :
    (ofReports leftAt left now).SameVerdict (ofReports rightAt right later) := by
  have size : left.length = right.length := by
    rw [← List.length_map RuleReport.bare, same, List.length_map]
  have failing := failuresOf_bare same
  have count : (failuresOf left).length = (failuresOf right).length := by
    rw [← List.length_map Evaluation.bare, failing, List.length_map]
  have told (reports : List RuleReport) :
      ((failuresOf reports).map fun failure =>
        (failure.ruleId, failure.source, failure.outcome.message)) =
      ((failuresOf reports).map Evaluation.bare).map fun failure =>
        (failure.ruleId, failure.source, failure.outcome.message) := by
    rw [List.map_map]
    rfl
  constructor
  case total => exact size
  case compliant => exact countP_compliant_bare same
  case nonCompliant => exact count
  case errors => exact countP_errors_bare same
  case overallCompliant =>
    change (failuresOf left).isEmpty = (failuresOf right).isEmpty
    rw [← List.isEmpty_map (f := Evaluation.bare), failing, List.isEmpty_map]
  case reports => exact same
  case failures =>
    refine (failures_ofReports leftAt left now).trans ?_
    rw [told, failing, ← told]
    exact (failures_ofReports rightAt right later).symm

end Aggregate

namespace Engine

section Registered

variable {left right : Engine} (registry : left.registry = right.registry)

include registry

theorem reportOn_bare (document : Document) (now later : ClockReading) (id : String) :
    (left.reportOn document now id).bare = (right.reportOn document later id).bare := by
  cases known : right.registry.get? id with
  | none =>
      have unknown : left.registry.get? id = none := by rw [registry, known]
      rw [reportOn_of_none known, reportOn_of_none unknown, missingRule_eq_of_registry registry]
  | some rule =>
      have found : left.registry.get? id = some rule := by rw [registry, known]
      rw [reportOn_of_some known, reportOn_of_some found]
      exact congrArg RuleReport.evaluated (rule.bare_evaluate document _ _ now later)

theorem evaluate_bare (id text : String) (now later : ClockReading) :
    (left.evaluate id text now).map (fun given => given.1.bare) =
      (right.evaluate id text later).map fun given => given.1.bare := by
  cases known : right.registry.get? id with
  | none =>
      have unknown : left.registry.get? id = none := by rw [registry, known]
      rw [evaluate_of_none known, evaluate_of_none unknown, registry]
  | some rule =>
      have found : left.registry.get? id = some rule := by rw [registry, known]
      rw [evaluate_of_some known, evaluate_of_some found]
      exact congrArg Except.ok (rule.bare_evaluate (Document.ofText text) _ _ now later)

/-- Engines with one rule set give one verdict, whatever their settings and clocks are. -/
theorem evaluateMany_sameVerdict (ids : List String) (text : String) (now later : Clock) :
    (left.evaluateMany ids text now).1.SameVerdict (right.evaluateMany ids text later).1 := by
  simp only [evaluateMany, summarize]
  apply Aggregate.sameVerdict_ofReports
  rw [reports_fst, reports_fst, List.map_map, List.map_map]
  apply List.map_congr_left
  rintro ⟨id, index⟩ _
  exact reportOn_bare registry (Document.ofText text) (now.rule index) (later.rule index) id

theorem evaluateTogether_sameVerdict (requests : List Request) (first second : Schedule) :
    List.Forall₂ Aggregate.SameVerdict (left.evaluateTogether requests first.order).1
      (right.evaluateTogether requests second.order).1 := by
  rw [evaluateTogether_fst, evaluateTogether_fst, List.forall₂_map_left_iff,
    List.forall₂_map_right_iff, List.forall₂_same]
  intro request _
  exact evaluateMany_sameVerdict registry request.ids request.text request.clock request.clock

end Registered

section Rating

def rated (engine : Engine) (severity : Severity) : Engine :=
  { engine with config := { engine.config with criticalSeverity := severity } }

variable (engine : Engine) (severity : Severity)

theorem log_rated (evaluation : Evaluation) :
    (engine.rated severity).log evaluation = (engine.log evaluation).rated severity := by
  rw [log, log]
  change (if engine.config.recordHistory then _ else _) = _
  split <;> rfl

theorem logAll_rated (evaluations : List Evaluation) :
    (engine.rated severity).logAll evaluations = (engine.logAll evaluations).rated severity := by
  induction evaluations generalizing engine with
  | nil => rfl
  | cons evaluation rest ih => rw [logAll_cons, log_rated, ih, logAll_cons]

theorem reports_rated (document : Document) (clock : Nat → ClockReading) (ids : List String) :
    ((engine.rated severity).reports document clock 0 ids).1 =
      (engine.reports document clock 0 ids).1 := by
  rw [reports_fst, reports_fst]
  rfl

theorem evaluateMany_rated (ids : List String) (text : String) (clock : Clock) :
    ((engine.rated severity).evaluateMany ids text clock).1.unlisted =
      (engine.evaluateMany ids text clock).1.unlisted := by
  have same := engine.reports_rated severity (Document.ofText text) clock.rule ids
  simp only [evaluateMany, summarize, Aggregate.ofReports, Aggregate.unlisted, same]

theorem made_rated (operation : Operation) :
    (engine.rated severity).made operation = engine.made operation := by
  have evaluated (ids : List String) (text : String) (clock : Clock) :
      Aggregate.evaluationsOf ((engine.rated severity).evaluateMany ids text clock).1.reports =
        Aggregate.evaluationsOf (engine.evaluateMany ids text clock).1.reports :=
    congrArg Aggregate.evaluationsOf
      (engine.reports_rated severity (Document.ofText text) clock.rule ids)
  cases operation with
  | change operation => rfl
  | exportRules => rfl
  | evaluate id text clock =>
      rw [made, made]
      cases known : engine.registry.get? id with
      | none =>
          have unknown : (engine.rated severity).registry.get? id = none := known
          rw [evaluate_of_none known, evaluate_of_none unknown]
      | some rule =>
          have found : (engine.rated severity).registry.get? id = some rule := known
          rw [evaluate_of_some known, evaluate_of_some found]
          rfl
  | evaluateRule rule document clock => rfl
  | evaluateMany ids text clock => exact evaluated ids text clock
  | evaluateAll text clock => exact evaluated engine.registry.ids text clock
  | evaluateTogether requests schedule => rfl
  | clearHistory => rfl

theorem perform_rated (operation : Operation) :
    (engine.rated severity).perform operation = (engine.perform operation).rated severity := by
  obtain ⟨change, rfl⟩ | rfl | ⟨_, logs⟩ := engine.perform_cases operation
  · rfl
  · rfl
  · obtain ⟨change, rfl⟩ | rfl | ⟨_, alsoLogs⟩ := (engine.rated severity).perform_cases operation
    · rfl
    · rfl
    · rw [alsoLogs, logs, made_rated, logAll_rated]

theorem performAll_rated (operations : List Operation) :
    (engine.rated severity).performAll operations =
      (engine.performAll operations).rated severity := by
  induction operations generalizing engine with
  | nil => rfl
  | cons operation rest ih =>
      rw [performAll, List.foldl_cons, ← performAll, perform_rated, ih]
      rfl

theorem after_rated (config : EngineConfig) (operations : List Operation) :
    after { config with criticalSeverity := severity } operations =
      (after config operations).rated severity :=
  performAll_rated (withConfig config) severity operations

end Rating

theorem alike_recording (config : EngineConfig) (recording : Bool) :
    (withConfig config).Alike (withConfig { config with recordHistory := recording }) where
  registry := rfl
  contextRadius := rfl
  criticalSeverity := rfl

/-- Other settings, after the same operations, change no verdict; another critical severity changes
nothing but the headings of the failures, and keeping a log changes nothing but the log. -/
structure Unswayed (config : EngineConfig) (operations : List Operation) : Prop where
  single : ∀ other id text now later,
    ((after config operations).evaluate id text now).map (fun given => given.1.bare) =
      ((after other operations).evaluate id text later).map fun given => given.1.bare
  many : ∀ other ids text now later,
    ((after config operations).evaluateMany ids text now).1.SameVerdict
      ((after other operations).evaluateMany ids text later).1
  whole : ∀ other text now later,
    ((after config operations).evaluateAll text now).1.SameVerdict
      ((after other operations).evaluateAll text later).1
  together : ∀ other requests (first second : Schedule), List.Forall₂ Aggregate.SameVerdict
    ((after config operations).evaluateTogether requests first.order).1
    ((after other operations).evaluateTogether requests second.order).1
  reheaded : ∀ severity ids text clock,
    ((after { config with criticalSeverity := severity } operations).evaluateMany
        ids text clock).1.unlisted =
      ((after config operations).evaluateMany ids text clock).1.unlisted
  rated : ∀ severity, after { config with criticalSeverity := severity } operations =
    (after config operations).rated severity
  recorded : ∀ recording,
    (withConfig { config with recordHistory := recording }).answers operations =
        (withConfig config).answers operations ∧
      (after { config with recordHistory := recording } operations).registry =
        (after config operations).registry

/-- The settings of an engine have no say in its verdicts, whatever was done to it before. -/
theorem after_unswayed (config : EngineConfig) (operations : List Operation) :
    Unswayed config operations := by
  have registry (other : EngineConfig) :
      (after config operations).registry = (after other operations).registry := by
    rw [after_registry, after_registry]
  constructor
  case single =>
    intro other id text now later
    exact evaluate_bare (registry other) id text now later
  case many =>
    intro other ids text now later
    exact evaluateMany_sameVerdict (registry other) ids text now later
  case whole =>
    intro other text now later
    rw [evaluateAll, evaluateAll, registry other]
    exact evaluateMany_sameVerdict (registry other) _ text now later
  case together =>
    intro other requests first second
    exact evaluateTogether_sameVerdict (registry other) requests first second
  case reheaded =>
    intro severity ids text clock
    rw [after_rated, evaluateMany_rated]
  case rated =>
    intro severity
    exact after_rated severity config operations
  case recorded =>
    intro recording
    exact ⟨((alike_recording config recording).answers_eq operations).symm,
      (registry { config with recordHistory := recording }).symm⟩

end Engine

end Compliance
