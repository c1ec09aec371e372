import Compliance.Aggregate
import Compliance.EngineConfig
import Compliance.History
import Compliance.Registry

/-!
The engine: a rule set, its settings and the log of what it evaluated. What a clock shows is a
parameter of every evaluation. Evaluations that run at the same time are a schedule, a list of
tasks in the order in which they append to the log.
-/

namespace Compliance

structure Engine where
  config : EngineConfig := {}
  registry : Registry := {}
  history : History := {}

/-- What the clock shows for each position of a list of rules, and for the whole. -/
structure Clock where
  rule : Nat → ClockReading
  whole : ClockReading

namespace Engine

def withConfig (config : EngineConfig) : Engine := { config }

def withRegistry (engine : Engine) (registry : Registry) : Engine :=
  { engine with registry }

def unknownRule (engine : Engine) (id : String) : Refusal :=
  .unknownRule id engine.registry.ids

def missingRule (engine : Engine) (id : String) : RuleReport :=
  .error (.ofUnknown id engine.registry.ids)

def log (engine : Engine) (evaluation : Evaluation) : Engine :=
  if engine.config.recordHistory then
    { engine with history := engine.history.record (.ofEvaluation evaluation) }
  else engine

def evaluateRule (engine : Engine) (rule : Rule) (document : Document) (clock : ClockReading) :
    Evaluation × Engine :=
  let evaluation := rule.evaluate document engine.config.contextRadius clock
  (evaluation, engine.log evaluation)

def evaluate (engine : Engine) (id text : String) (clock : ClockReading) :
    Except Refusal (Evaluation × Engine) :=
  match engine.registry.get? id with
  | some rule => .ok (engine.evaluateRule rule (Document.ofText text) clock)
  | none => .error (engine.unknownRule id)

def reports (engine : Engine) (document : Document) (clock : Nat → ClockReading) :
    (position : Nat) → List String → List RuleReport × Engine
  | _, [] => ([], engine)
  | position, id :: rest =>
      match engine.registry.get? id with
      | some rule =>
          let (evaluation, logged) := engine.evaluateRule rule document (clock position)
          let (others, last) := logged.reports document clock (position + 1) rest
          (.evaluated evaluation :: others, last)
      | none =>
          let (others, last) := engine.reports document clock (position + 1) rest
          (engine.missingRule id :: others, last)

def summarize (engine : Engine) (reports : List RuleReport) (clock : ClockReading) : Aggregate :=
  Aggregate.ofReports engine.config.criticalSeverity reports clock

def evaluateMany (engine : Engine) (ids : List String) (text : String) (clock : Clock) :
    Aggregate × Engine :=
  let (reports, logged) := engine.reports (Document.ofText text) clock.rule 0 ids
  (engine.summarize reports clock.whole, logged)

def evaluateAll (engine : Engine) (text : String) (clock : Clock) : Aggregate × Engine :=
  engine.evaluateMany engine.registry.ids text clock

end Engine

structure Request where
  ids : List String
  text : String
  clock : Clock

structure EvaluationTask where
  request : Nat
  position : Nat
  rule : Rule
  document : Document
  clock : ClockReading

structure FinishedTask where
  request : Nat
  position : Nat
  evaluation : Evaluation

namespace Engine

def tasks (engine : Engine) (number : Nat) (request : Request) : List EvaluationTask :=
  let document := Document.ofText request.text
  request.ids.zipIdx.filterMap fun (id, position) =>
    (engine.registry.get? id).map fun rule =>
      { request := number, position, rule, document, clock := request.clock.rule position }

def run (engine : Engine) : List EvaluationTask → List FinishedTask × Engine
  | [] => ([], engine)
  | task :: rest =>
      let (evaluation, logged) := engine.evaluateRule task.rule task.document task.clock
      let (others, last) := logged.run rest
      (⟨task.request, task.position, evaluation⟩ :: others, last)

def reportAt (engine : Engine) (finished : List FinishedTask) (number position : Nat)
    (id : String) : RuleReport :=
  match finished.find? fun task => task.request == number && task.position == position with
  | some task => .evaluated task.evaluation
  | none => engine.missingRule id

def collect (engine : Engine) (finished : List FinishedTask) (number : Nat) (request : Request) :
    Aggregate :=
  let reports := request.ids.zipIdx.map fun (id, position) =>
    engine.reportAt finished number position id
  engine.summarize reports request.clock.whole

/-- Serves requests at the same time: `schedule` decides in which order all their tasks run. -/
def evaluateTogether (engine : Engine) (requests : List Request)
    (schedule : List EvaluationTask → List EvaluationTask) : List Aggregate × Engine :=
  let started := requests.zipIdx.flatMap fun (request, number) => engine.tasks number request
  let (finished, last) := engine.run (schedule started)
  (requests.zipIdx.map fun (request, number) => engine.collect finished number request, last)

def evaluateConcurrently (engine : Engine) (request : Request)
    (schedule : List EvaluationTask → List EvaluationTask) : Aggregate × Engine :=
  let (finished, last) := engine.run (schedule (engine.tasks 0 request))
  (engine.collect finished 0 request, last)

def chronicle (engine : Engine) : List HistoryEntry := engine.history.chronological

def statistics (engine : Engine) : HistoryStatistics := engine.history.statistics

def clearHistory (engine : Engine) : Engine := { engine with history := {} }

end Engine

end Compliance
