import Mathlib.Data.List.Forall2
import Compliance.Proofs.Condition.Truth

/-!
What a verdict owes to the evidence that it is made from. Where two searches find something for the
same phrases, their verdicts on any tree differ in nothing but their evidence, which is counted
nowhere. Where they find the same, as far as a view of the evidence shows, so does the evidence of
the verdicts.
-/

namespace Compliance

variable {β : Type} {view : Evidence → β}

/-- The verdicts differ at most in their evidence. -/
structure Verdict.Alike (left right : Verdict) : Prop where
  satisfied : left.satisfied = right.satisfied
  missing : left.missing = right.missing
  details : left.details = right.details
  vacuous : left.vacuous = right.vacuous

/-- The verdicts differ at most in what the view does not show of their evidence. -/
structure Verdict.SameBy (view : Evidence → β) (left right : Verdict) : Prop where
  satisfied : left.satisfied = right.satisfied
  missing : left.missing = right.missing
  details : left.details = right.details
  vacuous : left.vacuous = right.vacuous
  evidence : left.evidence.map view = right.evidence.map view

namespace Verdict

theorem Alike.sameBy {left right : Verdict} (alike : Alike left right)
    (evidence : left.evidence.map view = right.evidence.map view) : SameBy view left right :=
  ⟨alike.satisfied, alike.missing, alike.details, alike.vacuous, evidence⟩

theorem Alike.lacking {left right : Verdict} (alike : Alike left right) :
    left.lacking = right.lacking := by
  rw [Verdict.lacking, Verdict.lacking, alike.satisfied, alike.missing]

section Children

variable {left right : List Verdict} (alike : List.Forall₂ Alike left right)

include alike

theorem countSatisfied_of_alike : countSatisfied left = countSatisfied right := by
  induction alike with
  | nil => rfl
  | cons first _ ih =>
      rw [countSatisfied, countSatisfied] at ih ⊢
      rw [List.countP_cons, List.countP_cons, ih, first.satisfied]

theorem flatMap_lacking_of_alike : left.flatMap lacking = right.flatMap lacking := by
  induction alike with
  | nil => rfl
  | cons first _ ih => rw [List.flatMap_cons, List.flatMap_cons, ih, first.lacking]

theorem conjunction_alike : Alike (conjunction left) (conjunction right) := by
  have count : countSatisfied left = countSatisfied right := countSatisfied_of_alike alike
  have size : left.length = right.length := alike.length_eq
  constructor
  case satisfied => simp only [conjunction, count, size]
  case missing => exact flatMap_lacking_of_alike alike
  case details => simp only [conjunction, count, size]
  case vacuous => rfl

theorem disjunction_alike : Alike (disjunction left) (disjunction right) := by
  have count : countSatisfied left = countSatisfied right := countSatisfied_of_alike alike
  have size : left.length = right.length := alike.length_eq
  constructor
  case satisfied => simp only [disjunction, count]
  case missing => simp only [disjunction, count]
  case details => simp only [disjunction, count, size]
  case vacuous => rfl

theorem exclusion_alike : Alike (exclusion left) (exclusion right) := by
  have count : countSatisfied left = countSatisfied right := countSatisfied_of_alike alike
  constructor
  case satisfied => simp only [exclusion, count]
  case missing => simp only [exclusion, count]
  case details => simp only [exclusion, count]
  case vacuous => rfl

end Children

theorem idle_alike (left right : Verdict) : Alike (idle left) (idle right) :=
  ⟨rfl, rfl, rfl, rfl⟩

theorem implication_alike (left right : Verdict) {leftEnd rightEnd : Verdict}
    (conclusion : Alike leftEnd rightEnd) :
    Alike (implication left leftEnd) (implication right rightEnd) where
  satisfied := conclusion.satisfied
  missing := conclusion.lacking
  details := by simp only [implication, conclusion.satisfied]
  vacuous := rfl

end Verdict

section Searches

variable {left right : String → List Evidence}

section Found

theorem Condition.verdicts_alike {children : List Condition}
    (each : ∀ child ∈ children, Verdict.Alike (child.verdict left) (child.verdict right)) :
    List.Forall₂ Verdict.Alike (verdicts left children) (verdicts right children) := by
  rw [verdicts_eq_map, verdicts_eq_map, List.forall₂_map_left_iff, List.forall₂_map_right_iff,
    List.forall₂_same]
  exact each

variable (found : ∀ phrase, left phrase = [] ↔ right phrase = [])

include found

theorem Verdict.ofElement_alike (leaf : Element) :
    Alike (ofElement leaf left) (ofElement leaf right) := by
  have matched : (leaf.phrases.map left).countP (fun evidence => !evidence.isEmpty) =
      (leaf.phrases.map right).countP fun evidence => !evidence.isEmpty := by
    rw [List.countP_map, List.countP_map]
    apply List.countP_congr
    intro phrase _
    simp only [Function.comp_apply, Bool.not_eq_true', List.isEmpty_eq_false_iff, ne_eq, found]
  constructor
  case satisfied => simp only [ofElement, matched]
  case missing => simp only [ofElement, matched]
  case details => simp only [ofElement, matched]
  case vacuous => rfl

theorem Condition.verdict_alike (condition : Condition) :
    Verdict.Alike (condition.verdict left) (condition.verdict right) := by
  induction condition using Condition.induction with
  | element leaf => exact Verdict.ofElement_alike found leaf
  | anyPhrase phrases => exact Verdict.ofElement_alike found (Element.implicit phrases)
  | allOf _ ih => exact Verdict.conjunction_alike (verdicts_alike ih)
  | anyOf _ ih => exact Verdict.disjunction_alike (verdicts_alike ih)
  | noneOf _ ih => exact Verdict.exclusion_alike (verdicts_alike ih)
  | implies antecedent consequent ihAntecedent ihConsequent =>
      rw [verdict, verdict, ihAntecedent.satisfied]
      split
      · exact Verdict.implication_alike _ _ ihConsequent
      · exact Verdict.idle_alike _ _

end Found

section Seen

theorem Condition.map_allEvidence {children : List Condition}
    (each : ∀ child ∈ children,
      (child.verdict left).evidence.map view = (child.verdict right).evidence.map view) :
    (Verdict.allEvidence (verdicts left children)).map view =
      (Verdict.allEvidence (verdicts right children)).map view := by
  simp only [Verdict.allEvidence, verdicts_eq_map, List.flatMap_map, List.map_flatMap]
  exact List.flatMap_congr each

variable (same : ∀ phrase, (left phrase).map view = (right phrase).map view)

include same

theorem Verdict.map_ofElement_evidence (leaf : Element) :
    (ofElement leaf left).evidence.map view = (ofElement leaf right).evidence.map view := by
  simp only [ofElement, List.map_flatten, List.map_map, Function.comp_def, same]

theorem Condition.verdict_of_same (condition : Condition) :
    Verdict.SameBy view (condition.verdict left) (condition.verdict right) := by
  have found (phrase : String) : left phrase = [] ↔ right phrase = [] := by
    rw [← List.map_eq_nil_iff (f := view), same, List.map_eq_nil_iff]
  refine (condition.verdict_alike found).sameBy ?_
  induction condition using Condition.induction with
  | element leaf => exact Verdict.map_ofElement_evidence same leaf
  | anyPhrase phrases => exact Verdict.map_ofElement_evidence same (Element.implicit phrases)
  | allOf _ ih | anyOf _ ih | noneOf _ ih => exact map_allEvidence ih
  | implies antecedent consequent ihAntecedent ihConsequent =>
      rw [verdict, verdict, (antecedent.verdict_alike found).satisfied]
      split
      · simp only [Verdict.implication, List.map_append, ihAntecedent, ihConsequent]
      · exact ihAntecedent

end Seen

end Searches

end Compliance
