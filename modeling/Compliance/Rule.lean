import Compliance.Condition.Authored
import Compliance.Refusal
import Compliance.RuleKind
import Compliance.Severity

/-!
Rules: a condition with what is to be said when it holds and when it does not. A rule is valid when
it has an id and a source, its condition is sound, and both outcomes have a label and a message.
-/

namespace Compliance

/-- What is said about a document. Which of a rule's two outcomes is the bad one is the rule's own
business. -/
structure Outcome where
  result : String
  message : String
  severity : Option Severity := none
  consequence : Option String := none
  remedy : Option String := none
deriving DecidableEq, Repr, Inhabited

structure Rule where
  id : String
  source : String
  kind : RuleKind
  description : Option String := none
  condition : Condition
  onSuccess : Outcome
  onFailure : Outcome
deriving Repr

def optionalMember {α : Type} (key : String) (toJson : α → Json) (value : Option α) :
    List (String × Json) :=
  (value.map fun present => (key, toJson present)).toList

namespace Outcome

def complaints (field : String) (outcome : Outcome) : List String :=
  (if outcome.result.isEmpty then [field ++ ".result: Outcome result label cannot be empty"]
    else []) ++
  (if outcome.message.isEmpty then [field ++ ".message: Outcome message cannot be empty"] else [])

def toJson (outcome : Outcome) : Json :=
  .object ([("result", .string outcome.result), ("message", .string outcome.message)] ++
    optionalMember "severity" Severity.toJson outcome.severity ++
    optionalMember "consequence" Json.string outcome.consequence ++
    optionalMember "remedy" Json.string outcome.remedy)

def decode : Decoder Outcome :=
  Decode.record "Outcome"
    (Outcome.mk <$> Fields.required "result" Decode.text
      <*> Fields.required "message" Decode.text
      <*> Fields.optional "severity" Severity.decode
      <*> Fields.optional "consequence" Decode.text
      <*> Fields.optional "remedy" Decode.text)

end Outcome

namespace Rule

def blankComplaints (field value : String) : List String :=
  if isBlankText value then [field ++ ": value cannot be blank"] else []

def conditionComplaints (condition : Condition) : List String :=
  match condition.check with
  | .ok () => []
  | .error fault => ["condition: " ++ fault.message]

def outcomeComplaints (field : String) (outcome : Outcome) : List String :=
  match outcome.complaints field with
  | [] => []
  | several => [String.join several]

def complaints (rule : Rule) : List String :=
  conditionComplaints rule.condition ++ blankComplaints "id" rule.id ++
    outcomeComplaints "on_failure" rule.onFailure ++
    outcomeComplaints "on_success" rule.onSuccess ++ blankComplaints "source" rule.source

def shownId (id : String) : String :=
  if isBlankText id then "<unnamed>" else trim id

def validated (rule : Rule) : Except Refusal Rule :=
  match rule.complaints with
  | [] => .ok rule
  | several => .error (.invalidRule (shownId rule.id) ("\n".intercalate several))

def toJson (rule : Rule) : Json :=
  .object ([("id", .string rule.id), ("source", .string rule.source),
      ("kind", rule.kind.toJson)] ++
    optionalMember "description" Json.string rule.description ++
    [("condition", rule.condition.toJson), ("on_success", rule.onSuccess.toJson),
      ("on_failure", rule.onFailure.toJson)])

def decode : Decoder Rule :=
  Decode.record "Rule"
    (Rule.mk <$> Fields.required "id" Decode.text
      <*> Fields.required "source" Decode.text
      <*> Fields.required "kind" RuleKind.decode
      <*> Fields.optional "description" Decode.text
      <*> Fields.required "condition" Condition.decode
      <*> Fields.field ["on_success", "onSuccess"] Outcome.decode none
      <*> Fields.field ["on_failure", "onFailure"] Outcome.decode none)

def blamedId (definition : Json) : String :=
  shownId (((definition.member? "id").bind Json.text?).getD "")

def ofJson (definition : Json) : Except Refusal Rule :=
  match decode .plain definition with
  | .ok rule => rule.validated
  | .error error => .error (.invalidRule (blamedId definition) error.message)

end Rule

end Compliance
