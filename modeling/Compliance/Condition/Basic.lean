import Compliance.Condition.Operator

/-!
Condition trees. A leaf is an element of the facts, met by any one of its phrases; the inner nodes
join conditions by the logical operators.
-/

namespace Compliance

/-- Something the document has to mention, and the phrases any of which counts as a mention. One
that is not required is never missed. -/
structure Element where
  name : String
  phrases : List String
  required : Bool
deriving DecidableEq, Repr

def Element.implicitName : String := "alternative phrases"

def Element.implicit (phrases : List String) : Element :=
  { name := implicitName, phrases, required := true }

inductive Condition where
  | element (leaf : Element)
  | allOf (children : List Condition)
  | anyPhrase (phrases : List String)
  | anyOf (children : List Condition)
  | noneOf (children : List Condition)
  | implies (antecedent consequent : Condition)
deriving Repr, Inhabited

namespace Condition

def operator? : Condition → Option Operator
  | element _ => none
  | allOf _ => some .conjunction
  | anyPhrase _ | anyOf _ => some .disjunction
  | noneOf _ => some .exclusion
  | implies _ _ => some .implication

def label (condition : Condition) : String :=
  match condition.operator? with
  | some operator => operator.name
  | none => "ELEMENT"

mutual

def phrases : Condition → List String
  | element leaf => leaf.phrases
  | anyPhrase phrases => phrases
  | allOf children | anyOf children | noneOf children => childPhrases children
  | implies antecedent consequent => antecedent.phrases ++ consequent.phrases

def childPhrases : List Condition → List String
  | [] => []
  | child :: rest => child.phrases ++ childPhrases rest

end

mutual

def phraseCount : Condition → Nat
  | element leaf => leaf.phrases.length
  | anyPhrase phrases => phrases.length
  | allOf children | anyOf children | noneOf children => childPhraseCount children
  | implies antecedent consequent => antecedent.phraseCount + consequent.phraseCount

def childPhraseCount : List Condition → Nat
  | [] => 0
  | child :: rest => child.phraseCount + childPhraseCount rest

end

end Condition

end Compliance
