import Mathlib.Logic.Basic
import Compliance.Condition.Evaluate
import Compliance.Proofs.Condition.Induction
import Compliance.Proofs.Mention

/-!
The truth value of a condition tree in terms of the phrases that a document mentions, and the
agreement of the verdict with it, for all trees, sound or not.
-/

namespace Compliance

def Element.Met (mentioned : String → Prop) (leaf : Element) : Prop :=
  leaf.required = false ∨ ∃ phrase ∈ leaf.phrases, mentioned phrase

theorem Element.met_implicit_iff (mentioned : String → Prop) (phrases : List String) :
    (implicit phrases).Met mentioned ↔ ∃ phrase ∈ phrases, mentioned phrase := by
  simp [Met, implicit]

namespace Condition

/-- The logical reading of a tree, given which phrases are mentioned. -/
def Holds (mentioned : String → Prop) : Condition → Prop
  | element leaf => leaf.Met mentioned
  | allOf children => ∀ child, child ∈ children → child.Holds mentioned
  | anyPhrase phrases => ∃ phrase ∈ phrases, mentioned phrase
  | anyOf children => ∃ child, ∃ _ : child ∈ children, child.Holds mentioned
  | noneOf children => ∀ child, child ∈ children → ¬ child.Holds mentioned
  | implies antecedent consequent => antecedent.Holds mentioned → consequent.Holds mentioned

theorem verdicts_eq_map (search : String → List Evidence) (children : List Condition) :
    verdicts search children = children.map (verdict search) := by
  induction children with
  | nil => rfl
  | cons child rest ih => rw [verdicts, ih, List.map_cons]

end Condition

namespace Verdict

variable {search : String → List Evidence} {mentioned : String → Prop}

theorem ofElement_satisfied_iff (found : ∀ phrase, search phrase ≠ [] ↔ mentioned phrase)
    (leaf : Element) : (ofElement leaf search).satisfied = true ↔ leaf.Met mentioned := by
  have matched : (0 < (leaf.phrases.map search).countP fun evidence => !evidence.isEmpty) ↔
      ∃ phrase ∈ leaf.phrases, mentioned phrase := by
    simp [List.countP_pos_iff, ← found]
  simp only [ofElement, Element.Met, Bool.or_eq_true, decide_eq_true_eq, Bool.not_eq_true', matched]
  exact Or.comm

theorem conjunction_satisfied_iff (verdicts : List Verdict) :
    (conjunction verdicts).satisfied = true ↔ ∀ verdict ∈ verdicts, verdict.satisfied = true := by
  simp [conjunction, countSatisfied]

theorem disjunction_satisfied_iff (verdicts : List Verdict) :
    (disjunction verdicts).satisfied = true ↔ ∃ verdict ∈ verdicts, verdict.satisfied = true := by
  simp [disjunction, countSatisfied]

theorem exclusion_satisfied_iff (verdicts : List Verdict) :
    (exclusion verdicts).satisfied = true ↔ ∀ verdict ∈ verdicts, ¬ verdict.satisfied = true := by
  simp [exclusion, countSatisfied]

end Verdict

namespace Condition

variable {search : String → List Evidence} {mentioned : String → Prop}

theorem verdict_satisfied_iff (found : ∀ phrase, search phrase ≠ [] ↔ mentioned phrase)
    (condition : Condition) :
    (condition.verdict search).satisfied = true ↔ condition.Holds mentioned := by
  induction condition using Condition.induction with
  | element leaf => rw [verdict, Holds, Verdict.ofElement_satisfied_iff found]
  | anyPhrase phrases =>
      rw [verdict, Holds, Verdict.ofElement_satisfied_iff found, Element.met_implicit_iff]
  | allOf children ih =>
      simp only [verdict, Holds, Verdict.conjunction_satisfied_iff, verdicts_eq_map,
        List.forall_mem_map]
      exact forall₂_congr ih
  | anyOf children ih =>
      simp only [verdict, Holds, Verdict.disjunction_satisfied_iff, verdicts_eq_map,
        List.mem_map, exists_exists_and_eq_and, exists_prop]
      exact exists_congr fun child => and_congr_right (ih child)
  | noneOf children ih =>
      simp only [verdict, Holds, Verdict.exclusion_satisfied_iff, verdicts_eq_map,
        List.forall_mem_map]
      exact forall₂_congr fun child member => not_congr (ih child member)
  | implies antecedent consequent ihAntecedent ihConsequent =>
      simp only [verdict, Holds, ← ihAntecedent, ← ihConsequent]
      split
      · rename_i premise
        simp [premise, Verdict.implication]
      · rename_i premise
        simp [premise, Verdict.idle]

theorem verdict_vacuous_iff (found : ∀ phrase, search phrase ≠ [] ↔ mentioned phrase)
    (condition : Condition) :
    (condition.verdict search).vacuous = true ↔
      ∃ antecedent consequent, condition = .implies antecedent consequent ∧
        ¬ antecedent.Holds mentioned := by
  cases condition with
  | implies antecedent consequent =>
      simp only [verdict, implies.injEq, ← verdict_satisfied_iff found]
      split
      · rename_i premise
        simp [premise, Verdict.implication]
      · rename_i premise
        simp [premise, Verdict.idle]
  | _ => simp [verdict, Verdict.ofElement, Verdict.conjunction, Verdict.disjunction,
      Verdict.exclusion]

/-- For every tree and document, the verdict is the truth value of the tree, and it is marked as
vacuous exactly when the tree is an implication with a false antecedent. -/
theorem evaluate_classical (condition : Condition) (document : Document) (radius : Nat) :
    ((condition.evaluate document radius).satisfied = true ↔
      condition.Holds document.Mentions) ∧
    ((condition.evaluate document radius).vacuous = true ↔
      ∃ antecedent consequent, condition = .implies antecedent consequent ∧
        ¬ antecedent.Holds document.Mentions) := by
  have found (phrase : String) := document.find_ne_nil_iff radius phrase
  exact ⟨verdict_satisfied_iff found condition, verdict_vacuous_iff found condition⟩

end Condition

end Compliance
