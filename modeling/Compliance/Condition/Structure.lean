import Compliance.Condition.Basic

/-!
Which condition trees are sound: every element has a name, every list of phrases has a phrase and
no blank one, and every inner node has children. The first fault from left to right is reported.
-/

namespace Compliance

inductive PhraseOwner where
  | element (name : String)
  | disjunction
deriving DecidableEq, Repr

def PhraseOwner.described : PhraseOwner → String
  | element name => "element '" ++ name ++ "'"
  | disjunction => "OR node"

inductive ConditionFault where
  | unsupportedOperator (spelling : String)
  | undeclared
  | noAntecedent
  | noConsequent
  | namelessElement
  | noPhrases (owner : PhraseOwner)
  | blankPhrase (owner : PhraseOwner)
  | noChildren (operator : Operator)
deriving DecidableEq, Repr

def ConditionFault.message : ConditionFault → String
  | unsupportedOperator spelling => Operator.unsupported spelling
  | undeclared => "condition must declare either an operator or an element"
  | noAntecedent => "IF-THEN node requires an antecedent"
  | noConsequent => "IF-THEN node requires a consequent"
  | namelessElement => "element name cannot be empty"
  | noPhrases owner => owner.described ++ " declares no search phrases"
  | blankPhrase owner => owner.described ++ " contains a blank search phrase"
  | noChildren operator => operator.name ++ " node has no conditions"

def checkPhrases (owner : PhraseOwner) (phrases : List String) : Except ConditionFault Unit :=
  if phrases.isEmpty then .error (.noPhrases owner)
  else if phrases.any isBlankText then .error (.blankPhrase owner)
  else .ok ()

def Element.check (leaf : Element) : Except ConditionFault Unit :=
  if isBlankText leaf.name then .error .namelessElement
  else checkPhrases (.element leaf.name) leaf.phrases

namespace Condition

mutual

def check : Condition → Except ConditionFault Unit
  | element leaf => leaf.check
  | anyPhrase phrases => checkPhrases .disjunction phrases
  | anyOf children => checkChildren .disjunction children
  | allOf children => checkChildren .conjunction children
  | noneOf children => checkChildren .exclusion children
  | implies antecedent consequent =>
      match antecedent.check with
      | .error fault => .error fault
      | .ok () => consequent.check

def checkChildren (operator : Operator) : List Condition → Except ConditionFault Unit
  | [] => .error (.noChildren operator)
  | child :: rest =>
      match child.check with
      | .error fault => .error fault
      | .ok () => checkSiblings rest

def checkSiblings : List Condition → Except ConditionFault Unit
  | [] => .ok ()
  | child :: rest =>
      match child.check with
      | .error fault => .error fault
      | .ok () => checkSiblings rest

end

end Condition

end Compliance
