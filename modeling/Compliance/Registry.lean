import Compliance.Json.Reader
import Compliance.Rule

/-!
The registry of rules, in ascending order of their ids. Every rule is validated on its way in, and
in a batch a rule that is turned down does not keep out the others.
-/

namespace Compliance

structure Rejection where
  index : Nat
  ruleId : Option String
  reason : String
deriving DecidableEq, Repr

structure Summary where
  total : Nat := 0
  successful : Nat := 0
  failed : Nat := 0
  errors : List Rejection := []
deriving DecidableEq, Repr

namespace Summary

def isClean (summary : Summary) : Bool := summary.failed == 0

def accept (summary : Summary) : Summary :=
  { summary with total := summary.total + 1, successful := summary.successful + 1 }

def rejection (index : Nat) : Refusal → Rejection
  | .invalidRule ruleId reason => { index, ruleId := some ruleId, reason }
  | other => { index, ruleId := none, reason := other.message }

def reject (summary : Summary) (refusal : Refusal) : Summary :=
  { summary with
    total := summary.total + 1
    failed := summary.failed + 1
    errors := summary.errors ++ [rejection summary.total refusal] }

end Summary

structure Registry where
  rules : List (String × Rule) := []

structure Batch where
  registry : Registry
  summary : Summary := {}

namespace Registry

def empty : Registry := {}

def ids (registry : Registry) : List String := Keyed.keys registry.rules

def size (registry : Registry) : Nat := registry.rules.length

def isEmpty (registry : Registry) : Bool := registry.rules.isEmpty

def get? (registry : Registry) (id : String) : Option Rule := Keyed.get? id registry.rules

def contains (registry : Registry) (id : String) : Bool := (registry.get? id).isSome

def toList (registry : Registry) : List Rule := registry.rules.map Prod.snd

/-- Registers a valid rule in place of any other with its id. -/
def tryRegister (registry : Registry) (rule : Rule) : Except Refusal Registry :=
  match rule.validated with
  | .ok valid => .ok { rules := Keyed.insert valid.id valid registry.rules }
  | .error refusal => .error refusal

def register (registry : Registry) (rule : Rule) : Bool × Registry :=
  match registry.tryRegister rule with
  | .ok registry => (true, registry)
  | .error _ => (false, registry)

end Registry

def Batch.add (batch : Batch) (candidate : Except Refusal Rule) : Batch :=
  match candidate.bind batch.registry.tryRegister with
  | .ok registry => { registry, summary := batch.summary.accept }
  | .error refusal => { batch with summary := batch.summary.reject refusal }

namespace Registry

def registerMany (registry : Registry) (rules : List Rule) : Batch :=
  rules.foldl (fun batch rule => batch.add (.ok rule)) { registry }

def registerValues (registry : Registry) (definitions : List Json) : Batch :=
  definitions.foldl (fun batch definition => batch.add (Rule.ofJson definition)) { registry }

def exportText (registry : Registry) : String :=
  (Json.array (registry.toList.map Rule.toJson)).pretty

def importText (registry : Registry) (payload : String) : Except Refusal Batch :=
  match Json.listOfText payload with
  | .ok definitions => .ok (registry.registerValues definitions)
  | .error reason => .error (.notRuleSet reason)

end Registry

end Compliance
