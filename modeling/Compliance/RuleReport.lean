import Compliance.Evaluation

/-!
The report on one requested rule: its evaluation, or that there is no such rule. In data the two
are told apart by a member `status`.
-/

namespace Compliance

structure MissingRule where
  ruleId : String
  message : String
  knownRules : List String
deriving DecidableEq, Repr

inductive RuleReport where
  | evaluated (evaluation : Evaluation)
  | error (missing : MissingRule)

def MissingRule.ofUnknown (ruleId : String) (known : List String) : MissingRule where
  ruleId := ruleId
  message := (Refusal.unknownRule ruleId known).message
  knownRules := known

namespace MissingRule

def members (missing : MissingRule) : List (String × Json) :=
  [("rule_id", .string missing.ruleId), ("message", .string missing.message),
    ("known_rules", .array (missing.knownRules.map Json.string))]

def decode : Decoder MissingRule :=
  Decode.record "RuleError"
    (MissingRule.mk <$> Fields.required "rule_id" Decode.text
      <*> Fields.required "message" Decode.text
      <*> Fields.required "known_rules" (Decode.list Decode.text))

end MissingRule

namespace RuleReport

def ruleId : RuleReport → String
  | evaluated evaluation => evaluation.ruleId
  | error missing => missing.ruleId

def evaluation? : RuleReport → Option Evaluation
  | evaluated evaluation => some evaluation
  | error _ => none

def toJson : RuleReport → Json
  | evaluated evaluation => .object (("status", .string "evaluated") :: evaluation.members)
  | error missing => .object (("status", .string "error") :: missing.members)

inductive Status where
  | evaluated
  | error
deriving DecidableEq, Repr

def decodeStatus : Json → Except DecodeError Status
  | .string "evaluated" => .ok .evaluated
  | .string "error" => .ok .error
  | .string other => .error (.unknownVariant other ["evaluated", "error"])
  | other => .error (.wrongType other "variant identifier")

def decodeContent (content : Json) : Status → Except DecodeError RuleReport
  | .evaluated => (Evaluation.decode .tagged content).map evaluated
  | .error => (MissingRule.decode .tagged content).map error

/-- The status is a member of an object, or the first item of a list. -/
def decode : Decoder RuleReport
  | _, .object members =>
      match Keyed.get? "status" members with
      | none => .error (.missingField "status")
      | some tag =>
          (decodeStatus tag).bind
            (decodeContent (.object (members.filter fun member => member.1 != "status")))
  | _, .array [] => .error (.missingField "status")
  | _, .array (tag :: content) => (decodeStatus tag).bind (decodeContent (.array content))
  | _, other => .error (.wrongType other "internally tagged enum RuleReport")

end RuleReport

end Compliance
