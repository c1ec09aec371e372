import Compliance.Condition.Basic
import Compliance.Evidence

/-!
The verdict on a condition: whether it is satisfied, the evidence, and what is missing. Evidence
is kept from branches that failed or were excluded too; only the consequent of an implication whose
antecedent does not hold is left unvisited.
-/

namespace Compliance

/-- What was found about a condition. `vacuous` marks an implication without its antecedent. -/
structure Verdict where
  satisfied : Bool
  evidence : List Evidence
  missing : List String
  details : String
  vacuous : Bool := false

def unnamedRequirement : String := "unsatisfied nested requirement"

def missingAlternative : String := "at least one alternative requirement"

def missingAbsence : String := "absence of prohibited condition"

def Element.label (leaf : Element) : String :=
  leaf.name ++ " (\"" ++ "\" or \"".intercalate leaf.phrases ++ "\")"

namespace Verdict

def lacking (verdict : Verdict) : List String :=
  if verdict.satisfied then []
  else if verdict.missing.isEmpty then [unnamedRequirement]
  else verdict.missing

def countSatisfied (verdicts : List Verdict) : Nat :=
  verdicts.countP Verdict.satisfied

def allEvidence (verdicts : List Verdict) : List Evidence :=
  verdicts.flatMap Verdict.evidence

def ofElement (leaf : Element) (search : String → List Evidence) : Verdict :=
  let found := leaf.phrases.map search
  let matched := found.countP fun evidence => !evidence.isEmpty
  { satisfied := 0 < matched || !leaf.required
    evidence := found.flatten
    missing := if matched = 0 && leaf.required then [leaf.label] else []
    details :=
      if 0 < matched then
        "element '" ++ leaf.name ++ "' matched " ++ toString matched ++ " of " ++
          toString leaf.phrases.length ++ " phrase(s)"
      else if leaf.required then "element '" ++ leaf.name ++ "' not found in the document"
      else "optional element '" ++ leaf.name ++ "' not found" }

def conjunction (verdicts : List Verdict) : Verdict :=
  { satisfied := countSatisfied verdicts == verdicts.length
    evidence := allEvidence verdicts
    missing := verdicts.flatMap lacking
    details := "AND: " ++ toString (countSatisfied verdicts) ++ " of " ++
      toString verdicts.length ++ " conditions satisfied" }

def disjunction (verdicts : List Verdict) : Verdict :=
  let satisfied := 0 < countSatisfied verdicts
  { satisfied
    evidence := allEvidence verdicts
    missing := if satisfied then [] else [missingAlternative]
    details := "OR: " ++ toString (countSatisfied verdicts) ++ " of " ++
      toString verdicts.length ++ " alternatives satisfied" }

def exclusion (verdicts : List Verdict) : Verdict :=
  let satisfied := countSatisfied verdicts == 0
  { satisfied
    evidence := allEvidence verdicts
    missing := if satisfied then [] else [missingAbsence]
    details :=
      if satisfied then "NOT: prohibited condition absent"
      else "NOT: " ++ toString (countSatisfied verdicts) ++ " prohibited condition(s) present" }

def idle (premise : Verdict) : Verdict :=
  { satisfied := true
    evidence := premise.evidence
    missing := []
    details := "IF-THEN: antecedent not met, condition vacuously satisfied"
    vacuous := true }

def implication (premise conclusion : Verdict) : Verdict :=
  { satisfied := conclusion.satisfied
    evidence := premise.evidence ++ conclusion.evidence
    missing := conclusion.lacking
    details := "IF-THEN: antecedent met, consequent " ++
      (if conclusion.satisfied then "satisfied" else "not satisfied") }

end Verdict

namespace Condition

mutual

def verdict (search : String → List Evidence) : Condition → Verdict
  | element leaf => Verdict.ofElement leaf search
  | anyPhrase phrases => Verdict.ofElement (Element.implicit phrases) search
  | allOf children => Verdict.conjunction (verdicts search children)
  | anyOf children => Verdict.disjunction (verdicts search children)
  | noneOf children => Verdict.exclusion (verdicts search children)
  | implies antecedent consequent =>
      let premise := antecedent.verdict search
      if premise.satisfied then Verdict.implication premise (consequent.verdict search)
      else Verdict.idle premise

def verdicts (search : String → List Evidence) : List Condition → List Verdict
  | [] => []
  | child :: rest => child.verdict search :: verdicts search rest

end

def evaluate (condition : Condition) (document : Document) (radius : Nat) : Verdict :=
  condition.verdict (document.find radius)

end Condition

end Compliance
