import Compliance.Proofs.Condition.Truth

/-!
Where it can be decided what is mentioned, the truth value of a tree can be decided too, as it can of
every document. What is said about trees by cases on their truth can then be evaluated.
-/

namespace Compliance

variable {mentioned : String → Prop} [DecidablePred mentioned]

instance Element.decidableMet (leaf : Element) : Decidable (leaf.Met mentioned) :=
  inferInstanceAs (Decidable (leaf.required = false ∨ ∃ phrase ∈ leaf.phrases, mentioned phrase))

namespace Condition

-- the children of a node are a list in the tree itself, so the decision follows that list
mutual

def decideHolds : (condition : Condition) → Decidable (condition.Holds mentioned)
  | element leaf => decidable_of_iff (leaf.Met mentioned) (by rw [Holds])
  | anyPhrase phrases => decidable_of_iff (∃ phrase ∈ phrases, mentioned phrase) (by rw [Holds])
  | allOf children =>
      haveI := decideEvery children
      decidable_of_iff (∀ child ∈ children, child.Holds mentioned) (by rw [Holds])
  | anyOf children =>
      haveI := decideSome children
      decidable_of_iff (∃ child ∈ children, child.Holds mentioned) (by simp [Holds])
  | noneOf children =>
      haveI := decideSome children
      decidable_of_iff (¬ ∃ child ∈ children, child.Holds mentioned) (by simp [Holds])
  | implies antecedent consequent =>
      haveI := decideHolds antecedent
      haveI := decideHolds consequent
      decidable_of_iff (antecedent.Holds mentioned → consequent.Holds mentioned) (by rw [Holds])

def decideEvery : (children : List Condition) →
    Decidable (∀ child ∈ children, child.Holds mentioned)
  | [] => isTrue (by simp)
  | child :: rest =>
      haveI := decideHolds child
      haveI := decideEvery rest
      decidable_of_iff (child.Holds mentioned ∧ ∀ other ∈ rest, other.Holds mentioned) (by simp)

def decideSome : (children : List Condition) →
    Decidable (∃ child ∈ children, child.Holds mentioned)
  | [] => isFalse (by simp)
  | child :: rest =>
      haveI := decideHolds child
      haveI := decideSome rest
      decidable_of_iff (child.Holds mentioned ∨ ∃ other ∈ rest, other.Holds mentioned) (by simp)

end

instance decidableHolds (condition : Condition) : Decidable (condition.Holds mentioned) :=
  condition.decideHolds

instance decidableSomeHolds (children : List Condition) :
    Decidable (∃ child ∈ children, child.Holds mentioned) :=
  decideSome children

end Condition

instance Document.decidableMentions (document : Document) : DecidablePred document.Mentions :=
  fun phrase => decidable_of_iff
    (normalForm phrase ≠ "" ∧ ∃ form ∈ document.normalForms,
      Text.occursIn (normalForm phrase).toList form.toList = true)
    (by simp only [Mentions, Contains, Text.occursIn_iff_infix])

end Compliance
