import Compliance.Aggregate

/-!
Reports as plain text, line by line: heading, circumstances, outcome, evidence and what is missing.
-/

namespace Compliance

namespace Report

def verdictWord (compliant : Bool) : String :=
  if compliant then "COMPLIANT" else "NON-COMPLIANT"

def durationLine (milliseconds : Float) : String :=
  "Duration: " ++ fixedPlaces milliseconds 3 ++ " ms"

def timeLine (time : Timestamp) : String :=
  "Evaluated at: " ++ time.offsetText

def optionalLine (start : String) (value : Option String) : List String :=
  (value.map fun present => start ++ present).toList

def evidenceLines (number : Nat) (evidence : Evidence) : List String :=
  ["  " ++ toString number ++ ". \"" ++ evidence.phrase ++ "\" in sentence " ++
      toString (evidence.sentenceIndex + 1) ++ " (" ++
      fixedPlaces (evidence.confidence * 100.0) 0 ++ "% confidence)",
    "     Sentence: " ++ evidence.sentence,
    "     Context: " ++ evidence.context]

def counted (heading : String) (count : Nat) : String :=
  heading ++ " (" ++ toString count ++ "):"

def evidenceSection (evidence : List Evidence) : List String :=
  if evidence.isEmpty then ["Evidence: none"]
  else counted "Evidence" evidence.length ::
    evidence.zipIdx.flatMap fun (item, index) => evidenceLines (index + 1) item

def missingSection (missing : List String) : List String :=
  if missing.isEmpty then ["Missing requirements: none"]
  else counted "Missing requirements" missing.length ::
    missing.map fun requirement => "  - " ++ requirement

def statusLine (evaluation : Evaluation) : String :=
  "Status: " ++ verdictWord evaluation.compliant ++
    (if evaluation.vacuous then " (vacuously true)" else "")

def headSection (evaluation : Evaluation) : List String :=
  ["=== Rule " ++ evaluation.ruleId ++ " ===", "Source: " ++ evaluation.source,
    "Kind: " ++ evaluation.kind.name, timeLine evaluation.time,
    durationLine evaluation.milliseconds]

def outcomeSection (outcome : ResolvedOutcome) : List String :=
  ["Outcome: " ++ outcome.result, "Message: " ++ outcome.message] ++
    optionalLine "Severity: " (outcome.severity.map Severity.name) ++
    optionalLine "Consequence: " outcome.consequence ++
    optionalLine "Remedy: " outcome.remedy ++ ["Details: " ++ outcome.details]

def evaluationLines (evaluation : Evaluation) : List String :=
  headSection evaluation ++ [""] ++ statusLine evaluation :: outcomeSection evaluation.outcome ++
    [""] ++ evidenceSection evaluation.evidence ++ [""] ++ missingSection evaluation.missing

def missingRuleLines (missing : MissingRule) : List String :=
  ["=== Rule " ++ missing.ruleId ++ " (error) ===", "Message: " ++ missing.message,
    "Known rules: " ++
      (if missing.knownRules.isEmpty then "none" else ", ".intercalate missing.knownRules)]

def reportLines : RuleReport → List String
  | .evaluated evaluation => evaluationLines evaluation
  | .error missing => missingRuleLines missing

def criticalLines (failure : CriticalFailure) : List String :=
  ("  - " ++ failure.ruleId ++ " [" ++ failure.source ++ "]: " ++ failure.message) ::
    optionalLine "      Consequence: " failure.consequence ++
    optionalLine "      Remedy: " failure.remedy

def warningLine (warning : Warning) : String :=
  "  - " ++ warning.ruleId ++ " [" ++ warning.source ++ "]" ++
    (match warning.severity with
      | some severity => " (" ++ severity.name ++ ")"
      | none => "") ++
    ": " ++ warning.detail

def criticalSection (failures : List CriticalFailure) : List String :=
  if failures.isEmpty then []
  else "" :: counted "Critical failures" failures.length :: failures.flatMap criticalLines

def warningSection (warnings : List Warning) : List String :=
  if warnings.isEmpty then []
  else "" :: counted "Warnings" warnings.length :: warnings.map warningLine

def totalsLine (aggregate : Aggregate) : String :=
  "Rules: " ++ toString aggregate.total ++ " total, " ++ toString aggregate.compliant ++
    " compliant, " ++ toString aggregate.nonCompliant ++ " non-compliant, " ++
    toString aggregate.errors ++ " errors"

def aggregateLines (aggregate : Aggregate) : List String :=
  ["=== Compliance Report ===", timeLine aggregate.time, durationLine aggregate.milliseconds,
    totalsLine aggregate, "Overall: " ++ verdictWord aggregate.overallCompliant] ++
    criticalSection aggregate.criticalFailures ++ warningSection aggregate.warnings ++
    aggregate.reports.flatMap fun report => "" :: reportLines report

def ofLines (lines : List String) : String :=
  String.join (lines.map fun line => line ++ "\n")

end Report

def Evaluation.report (evaluation : Evaluation) : String :=
  Report.ofLines (Report.evaluationLines evaluation)

def Aggregate.report (aggregate : Aggregate) : String :=
  Report.ofLines (Report.aggregateLines aggregate)

end Compliance
