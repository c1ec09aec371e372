import Compliance.RuleReport

/-!
The verdict of a rule set on a document. Each report counts as compliant, not compliant or in
error; the failures whose severity is the critical one are listed apart from all others.
-/

namespace Compliance

structure CriticalFailure where
  ruleId : String
  source : String
  message : String
  consequence : Option String
  remedy : Option String
deriving DecidableEq, Repr

structure Warning where
  ruleId : String
  source : String
  severity : Option Severity
  detail : String
deriving DecidableEq, Repr

structure Aggregate where
  total : Nat
  compliant : Nat
  nonCompliant : Nat
  errors : Nat
  overallCompliant : Bool
  criticalFailures : List CriticalFailure
  warnings : List Warning
  reports : List RuleReport
  time : Timestamp
  milliseconds : Float

namespace CriticalFailure

def ofEvaluation (failure : Evaluation) : CriticalFailure where
  ruleId := failure.ruleId
  source := failure.source
  message := failure.outcome.message
  consequence := failure.outcome.consequence
  remedy := failure.outcome.remedy

def toJson (failure : CriticalFailure) : Json :=
  .object ([("rule_id", .string failure.ruleId), ("source", .string failure.source),
      ("message", .string failure.message)] ++
    optionalMember "consequence" Json.string failure.consequence ++
    optionalMember "remedy" Json.string failure.remedy)

def decode : Decoder CriticalFailure :=
  Decode.record "CriticalFailure"
    (CriticalFailure.mk <$> Fields.required "rule_id" Decode.text
      <*> Fields.required "source" Decode.text
      <*> Fields.required "message" Decode.text
      <*> Fields.optional "consequence" Decode.text
      <*> Fields.optional "remedy" Decode.text)

end CriticalFailure

namespace Warning

def ofEvaluation (failure : Evaluation) : Warning where
  ruleId := failure.ruleId
  source := failure.source
  severity := failure.outcome.severity
  detail := failure.outcome.message

def toJson (warning : Warning) : Json :=
  .object ([("rule_id", .string warning.ruleId), ("source", .string warning.source)] ++
    optionalMember "severity" Severity.toJson warning.severity ++
    [("detail", .string warning.detail)])

def decode : Decoder Warning :=
  Decode.record "Warning"
    (Warning.mk <$> Fields.required "rule_id" Decode.text
      <*> Fields.required "source" Decode.text
      <*> Fields.optional "severity" Severity.decode
      <*> Fields.required "detail" Decode.text)

end Warning

def Evaluation.isCritical (criticalAt : Severity) (failure : Evaluation) : Bool :=
  failure.outcome.severity == some criticalAt

namespace Aggregate

def evaluationsOf (reports : List RuleReport) : List Evaluation :=
  reports.filterMap RuleReport.evaluation?

def failuresOf (reports : List RuleReport) : List Evaluation :=
  (evaluationsOf reports).filter fun evaluation => !evaluation.compliant

def ofReports (criticalAt : Severity) (reports : List RuleReport) (clock : ClockReading) :
    Aggregate :=
  let evaluations := evaluationsOf reports
  let failures := failuresOf reports
  { total := reports.length
    compliant := evaluations.countP Evaluation.compliant
    nonCompliant := failures.length
    errors := reports.countP fun report => report.evaluation?.isNone
    overallCompliant := failures.isEmpty
    criticalFailures :=
      (failures.filter (Evaluation.isCritical criticalAt)).map CriticalFailure.ofEvaluation
    warnings :=
      (failures.filter fun failure => !failure.isCritical criticalAt).map Warning.ofEvaluation
    reports
    time := clock.time
    milliseconds := clock.milliseconds }

def evaluations (aggregate : Aggregate) : List Evaluation :=
  evaluationsOf aggregate.reports

def reportFor? (aggregate : Aggregate) (ruleId : String) : Option RuleReport :=
  aggregate.reports.find? fun report => report.ruleId == ruleId

def toJson (aggregate : Aggregate) : Json :=
  .object [("total_rules", .integer aggregate.total), ("compliant", .integer aggregate.compliant),
    ("non_compliant", .integer aggregate.nonCompliant), ("errors", .integer aggregate.errors),
    ("overall_compliant", .bool aggregate.overallCompliant),
    ("critical_failures", .array (aggregate.criticalFailures.map CriticalFailure.toJson)),
    ("warnings", .array (aggregate.warnings.map Warning.toJson)),
    ("results", .array (aggregate.reports.map RuleReport.toJson)),
    ("evaluated_at", aggregate.time.toJson), ("duration_ms", .ofFloat aggregate.milliseconds)]

def decode : Decoder Aggregate :=
  Decode.record "AggregateResult"
    (Aggregate.mk <$> Fields.required "total_rules" Decode.count
      <*> Fields.required "compliant" Decode.count
      <*> Fields.required "non_compliant" Decode.count
      <*> Fields.required "errors" Decode.count
      <*> Fields.required "overall_compliant" Decode.bool
      <*> Fields.required "critical_failures" (Decode.list CriticalFailure.decode)
      <*> Fields.required "warnings" (Decode.list Warning.decode)
      <*> Fields.required "results" (Decode.list RuleReport.decode)
      <*> Fields.required "evaluated_at" Timestamp.decode
      <*> Fields.required "duration_ms" Decode.float)

end Aggregate

end Compliance
