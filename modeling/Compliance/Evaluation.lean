import Compliance.Condition.Evaluate
import Compliance.Rule
import Compliance.Time.Reader

/-!
The evaluation of one rule against one document: the verdict on its condition, the outcome that
goes with the verdict, and when and how long it was evaluated.
-/

namespace Compliance

structure ClockReading where
  time : Timestamp
  milliseconds : Float

structure ResolvedOutcome extends Outcome where
  details : String
deriving DecidableEq, Repr

structure Evaluation where
  ruleId : String
  source : String
  kind : RuleKind
  compliant : Bool
  vacuous : Bool
  evidence : List Evidence
  missing : List String
  outcome : ResolvedOutcome
  milliseconds : Float
  time : Timestamp

def Rule.outcomeFor (rule : Rule) (satisfied : Bool) : Outcome :=
  if satisfied then rule.onSuccess else rule.onFailure

def Evaluation.ofVerdict (rule : Rule) (verdict : Verdict) (clock : ClockReading) :
    Evaluation where
  ruleId := rule.id
  source := rule.source
  kind := rule.kind
  compliant := verdict.satisfied
  vacuous := verdict.vacuous
  evidence := verdict.evidence
  missing := verdict.missing
  outcome := { rule.outcomeFor verdict.satisfied with details := verdict.details }
  milliseconds := clock.milliseconds
  time := clock.time

def Rule.evaluate (rule : Rule) (document : Document) (radius : Nat) (clock : ClockReading) :
    Evaluation :=
  Evaluation.ofVerdict rule (rule.condition.evaluate document radius) clock

namespace Evidence

def toJson (evidence : Evidence) : Json :=
  .object [("phrase", .string evidence.phrase), ("sentence", .string evidence.sentence),
    ("sentence_index", .integer evidence.sentenceIndex), ("context", .string evidence.context),
    ("confidence", .ofFloat evidence.confidence)]

def decode : Decoder Evidence :=
  Decode.record "Evidence"
    (Evidence.mk <$> Fields.required "phrase" Decode.text
      <*> Fields.required "sentence" Decode.text
      <*> Fields.required "sentence_index" Decode.count
      <*> Fields.required "context" Decode.text
      <*> Fields.required "confidence" Decode.float)

end Evidence

namespace ResolvedOutcome

def toJson (outcome : ResolvedOutcome) : Json :=
  .object ([("result", .string outcome.result), ("message", .string outcome.message)] ++
    optionalMember "severity" Severity.toJson outcome.severity ++
    optionalMember "consequence" Json.string outcome.consequence ++
    optionalMember "remedy" Json.string outcome.remedy ++
    [("details", .string outcome.details)])

def decode : Decoder ResolvedOutcome :=
  Decode.record "ResolvedOutcome"
    (ResolvedOutcome.mk <$>
      (Outcome.mk <$> Fields.required "result" Decode.text
        <*> Fields.required "message" Decode.text
        <*> Fields.optional "severity" Severity.decode
        <*> Fields.optional "consequence" Decode.text
        <*> Fields.optional "remedy" Decode.text)
      <*> Fields.required "details" Decode.text)

end ResolvedOutcome

namespace Evaluation

def members (evaluation : Evaluation) : List (String × Json) :=
  [("rule_id", .string evaluation.ruleId), ("source", .string evaluation.source),
    ("kind", evaluation.kind.toJson), ("compliant", .bool evaluation.compliant),
    ("vacuously_true", .bool evaluation.vacuous),
    ("evidence", .array (evaluation.evidence.map Evidence.toJson)),
    ("missing", .array (evaluation.missing.map Json.string)),
    ("outcome", evaluation.outcome.toJson), ("duration_ms", .ofFloat evaluation.milliseconds),
    ("timestamp", evaluation.time.toJson)]

def toJson (evaluation : Evaluation) : Json := .object evaluation.members

def decode : Decoder Evaluation :=
  Decode.record "EvaluationResult"
    (Evaluation.mk <$> Fields.required "rule_id" Decode.text
      <*> Fields.required "source" Decode.text
      <*> Fields.required "kind" RuleKind.decode
      <*> Fields.required "compliant" Decode.bool
      <*> Fields.defaulted "vacuously_true" Decode.bool false
      <*> Fields.required "evidence" (Decode.list Evidence.decode)
      <*> Fields.required "missing" (Decode.list Decode.text)
      <*> Fields.required "outcome" ResolvedOutcome.decode
      <*> Fields.required "duration_ms" Decode.float
      <*> Fields.required "timestamp" Timestamp.decode)

end Evaluation

end Compliance
