import Mathlib.Data.List.Forall2
import Compliance.Proofs.Condition.Decision
import Compliance.Proofs.Engine.Operation

/-!
Evaluating many rules at once compared with evaluating each of them alone. What is said of a
registered rule depends on that rule, the radius and the text; only the report on an id that is not
registered shows which others are.
-/

namespace Compliance

namespace Rule

variable (rule : Rule) (document : Document) (radius : Nat) (clock : ClockReading)

theorem compliant_evaluate_iff :
    (rule.evaluate document radius clock).compliant = true ↔
      rule.condition.Holds document.Mentions :=
  rule.condition.verdict_satisfied_iff fun phrase => document.find_ne_nil_iff radius phrase

theorem outcome_evaluate : (rule.evaluate document radius clock).outcome.toOutcome =
    if rule.condition.Holds document.Mentions then rule.onSuccess else rule.onFailure := by
  have truth := rule.compliant_evaluate_iff document radius clock
  change rule.outcomeFor (rule.evaluate document radius clock).compliant = _
  rw [outcomeFor]
  simp only [truth]

end Rule

namespace Engine

def alone (engine : Engine) (id text : String) (clock : ClockReading) :
    Except Refusal Evaluation :=
  (engine.evaluate id text clock).map fun (evaluation, _) => evaluation.timeless

/-- The report says what comes of evaluating the rule alone, at whatever time. On an id of no rule it
says that there is none, and lists the ids that there are. -/
def Answers (engine : Engine) (text id : String) (report : RuleReport) : Prop :=
  ∀ clock, match engine.alone id text clock with
    | .ok evaluation => report.timeless = .evaluated evaluation
    | .error refusal => refusal = .unknownRule id engine.registry.ids ∧
        report = .error
          { ruleId := id
            message := "Rule '" ++ id ++ "' is not registered"
            knownRules := engine.registry.ids }

/-- A request for many rules gives each id what it gives alone, and what a registered one gives
alone is settled by its rule. -/
structure Agrees (engine : Engine) : Prop where
  answered : ∀ ids text clock,
    List.Forall₂ (engine.Answers text) ids (engine.evaluateMany ids text clock).1.reports
  named : ∀ ids text clock,
    (engine.evaluateMany ids text clock).1.reports.map RuleReport.ruleId = ids
  whole : ∀ text clock,
    engine.evaluateAll text clock = engine.evaluateMany engine.registry.ids text clock
  ascending : engine.registry.ids.Pairwise (· < ·)
  registered : ∀ id, id ∈ engine.registry.ids ↔ ∃ rule, engine.registry.get? id = some rule
  refused : ∀ id, engine.registry.get? id = none → ∀ text clock,
    engine.alone id text clock = .error (.unknownRule id engine.registry.ids)
  resolved : ∀ id rule, engine.registry.get? id = some rule → ∀ text clock,
    ∃ evaluation, engine.alone id text clock = .ok evaluation ∧ evaluation.ruleId = id ∧
      (evaluation.compliant = true ↔ rule.condition.Holds (Document.ofText text).Mentions) ∧
      evaluation.outcome.toOutcome =
        if rule.condition.Holds (Document.ofText text).Mentions then rule.onSuccess
        else rule.onFailure
  determined : ∀ id rule, engine.registry.get? id = some rule →
    ∀ other : Engine, other.registry.get? id = some rule →
      other.config.contextRadius = engine.config.contextRadius →
      ∀ text now later, other.alone id text later = engine.alone id text now
  undisturbed : ∀ id rule, engine.registry.get? id = some rule →
    ∀ operations : List Operation, (∀ operation ∈ operations, ¬ operation.Touches id) →
      ∀ text now later,
        (engine.performAll operations).alone id text later = engine.alone id text now

section Alone

variable {engine : Engine} {id : String}

theorem alone_of_some {rule : Rule} (known : engine.registry.get? id = some rule) (text : String)
    (clock : ClockReading) :
    engine.alone id text clock = .ok
      (rule.evaluate (Document.ofText text) engine.config.contextRadius clock).timeless := by
  rw [alone, evaluate_of_some known]
  rfl

theorem alone_of_none (unknown : engine.registry.get? id = none) (text : String)
    (clock : ClockReading) :
    engine.alone id text clock = .error (.unknownRule id engine.registry.ids) := by
  rw [alone, evaluate_of_none unknown]
  rfl

theorem alone_eq_of_get? {rule : Rule} (known : engine.registry.get? id = some rule)
    {other : Engine} (same : other.registry.get? id = some rule)
    (radius : other.config.contextRadius = engine.config.contextRadius) (text : String)
    (now later : ClockReading) : other.alone id text later = engine.alone id text now := by
  rw [alone_of_some known, alone_of_some same, radius]
  rfl

theorem alone_performAll {rule : Rule} (known : engine.registry.get? id = some rule)
    {operations : List Operation} (untouched : ∀ operation ∈ operations, ¬ operation.Touches id)
    (text : String) (now later : ClockReading) :
    (engine.performAll operations).alone id text later = engine.alone id text now := by
  have same : (engine.performAll operations).registry.get? id = some rule := by
    rw [engine.get?_performAll_of_not_touches untouched, known]
  have radius : (engine.performAll operations).config.contextRadius =
      engine.config.contextRadius := by
    rw [performAll_config]
  exact alone_eq_of_get? known same radius text now later

end Alone

section Reports

variable (engine : Engine) (text : String)

theorem answers_reportOn (clock : ClockReading) (id : String) :
    engine.Answers text id (engine.reportOn (Document.ofText text) clock id) := by
  intro moment
  cases known : engine.registry.get? id with
  | some rule =>
      rw [alone_of_some known, reportOn_of_some known]
      rfl
  | none =>
      rw [alone_of_none known, reportOn_of_none known]
      exact ⟨rfl, rfl⟩

theorem answers_reports (clock : Nat → ClockReading) (position : Nat) (ids : List String) :
    List.Forall₂ (engine.Answers text) ids
      ((ids.zipIdx position).map fun (id, index) =>
        engine.reportOn (Document.ofText text) (clock index) id) := by
  induction ids generalizing position with
  | nil => exact List.Forall₂.nil
  | cons id rest ih =>
      rw [List.zipIdx_cons, List.map_cons]
      exact .cons (engine.answers_reportOn text (clock position) id) (ih (position + 1))

theorem evaluateMany_answers (ids : List String) (clock : Clock) :
    List.Forall₂ (engine.Answers text) ids (engine.evaluateMany ids text clock).1.reports := by
  have listed := engine.reports_fst (Document.ofText text) clock.rule 0 ids
  change List.Forall₂ _ ids (engine.reports (Document.ofText text) clock.rule 0 ids).1
  rw [listed]
  exact engine.answers_reports text clock.rule 0 ids

end Reports

section Kept

variable {engine : Engine} (kept : engine.registry.WellKept)

include kept

theorem Answers.ruleId_eq {text id : String} {report : RuleReport}
    (answers : engine.Answers text id report) : report.ruleId = id := by
  have answer := answers ⟨.epoch, 0⟩
  cases known : engine.registry.get? id with
  | some rule =>
      rw [alone_of_some known] at answer
      cases report with
      | evaluated evaluation =>
          have same : evaluation.ruleId = rule.id := congrArg RuleReport.ruleId answer
          rw [RuleReport.ruleId, same, kept.id_of_get? known]
      | error missing => cases answer
  | none =>
      rw [alone_of_none known] at answer
      rw [answer.2]
      rfl

theorem map_ruleId_evaluateMany (ids : List String) (text : String) (clock : Clock) :
    (engine.evaluateMany ids text clock).1.reports.map RuleReport.ruleId = ids := by
  have inOrder : List.Forall₂ (fun id report => id = RuleReport.ruleId report) ids
      (engine.evaluateMany ids text clock).1.reports :=
    (engine.evaluateMany_answers text ids clock).imp fun _ _ answers =>
      (answers.ruleId_eq kept).symm
  have equal := List.forall₂_map_right_iff.mpr inOrder
  rw [List.forall₂_eq_eq_eq] at equal
  exact equal.symm

theorem exists_alone_of_some {id : String} {rule : Rule}
    (known : engine.registry.get? id = some rule) (text : String) (clock : ClockReading) :
    ∃ evaluation, engine.alone id text clock = .ok evaluation ∧ evaluation.ruleId = id ∧
      (evaluation.compliant = true ↔ rule.condition.Holds (Document.ofText text).Mentions) ∧
      evaluation.outcome.toOutcome =
        if rule.condition.Holds (Document.ofText text).Mentions then rule.onSuccess
        else rule.onFailure :=
  ⟨_, alone_of_some known text clock, kept.id_of_get? known, rule.compliant_evaluate_iff _ _ clock,
    rule.outcome_evaluate _ _ clock⟩

theorem agrees_of_wellKept : engine.Agrees where
  answered ids text clock := engine.evaluateMany_answers text ids clock
  named ids text clock := map_ruleId_evaluateMany kept ids text clock
  whole _ _ := rfl
  ascending := kept.ascending.keys
  registered id := Keyed.mem_keys_iff id engine.registry.rules
  refused _ unknown := alone_of_none unknown
  resolved _ _ known := exists_alone_of_some kept known
  determined _ _ known _ same radius := alone_eq_of_get? known same radius
  undisturbed _ _ known _ untouched := alone_performAll known untouched

end Kept

/-- Whatever was done to an engine, what it says of many rules is what it says of each alone, and of
each registered one that does not change when others are registered, replaced or asked for. -/
theorem after_agrees (config : EngineConfig) (operations : List Operation) :
    (after config operations).Agrees := by
  apply agrees_of_wellKept
  rw [after_registry]
  exact Registry.wellKept_run (operations.flatMap Operation.changes)

end Engine

end Compliance
