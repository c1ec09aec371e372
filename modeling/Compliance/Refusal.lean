/-!
Why a rule set turns a request down. Each reason has a message, a stable code, and advice.
-/

namespace Compliance

inductive Refusal where
  | invalidRule (ruleId reason : String)
  | unknownRule (ruleId : String) (known : List String)
  | notRuleSet (reason : String)
deriving DecidableEq, Repr

namespace Refusal

def listed (ids : List String) : String :=
  if ids.isEmpty then "(none)" else ", ".intercalate ids

def message : Refusal → String
  | invalidRule ruleId reason => "Rule validation failed for '" ++ ruleId ++ "': " ++ reason
  | unknownRule ruleId _ => "Rule '" ++ ruleId ++ "' is not registered"
  | notRuleSet reason => "Rule set serialization error: " ++ reason

def code : Refusal → String
  | invalidRule _ _ => "forensic::domain::rule_validation"
  | unknownRule _ _ => "forensic::domain::unknown_rule"
  | notRuleSet _ => "forensic::domain::serialization"

def help : Refusal → String
  | invalidRule _ _ =>
      "A rule needs an id, a source, a kind, a condition tree and both outcomes."
  | unknownRule _ known => "Known rules: " ++ listed known
  | notRuleSet _ => "The payload must be a JSON array of rule definitions."

end Refusal

end Compliance
