import Compliance.Evaluation
import Compliance.Proofs.Condition.Decision

/-!
What a condition tree lacks in a document, by its logical reading alone, and that the verdict names
just this. A tree lacks something exactly when it does not hold, so no failure is left unexplained
and the words for an unexplained one are never used.
-/

namespace Compliance

variable {mentioned : String → Prop} [DecidablePred mentioned]

def Element.unmet (mentioned : String → Prop) [DecidablePred mentioned] (leaf : Element) :
    List String :=
  if leaf.Met mentioned then [] else [leaf.label]

namespace Condition

mutual

/-- The requirements that a document with these mentions leaves open. Alternatives and exclusions
have one name for all their children. -/
def unmet (mentioned : String → Prop) [DecidablePred mentioned] : Condition → List String
  | element leaf => leaf.unmet mentioned
  | anyPhrase phrases => (Element.implicit phrases).unmet mentioned
  | allOf children => childrenUnmet mentioned children
  | anyOf children =>
      if ∃ child ∈ children, child.Holds mentioned then [] else [missingAlternative]
  | noneOf children =>
      if ∃ child ∈ children, child.Holds mentioned then [missingAbsence] else []
  | implies antecedent consequent =>
      if antecedent.Holds mentioned ∧ ¬ consequent.Holds mentioned then
        consequent.unmet mentioned
      else []

def childrenUnmet (mentioned : String → Prop) [DecidablePred mentioned] :
    List Condition → List String
  | [] => []
  | child :: rest =>
      (if child.Holds mentioned then [] else child.unmet mentioned) ++
        childrenUnmet mentioned rest

end

end Condition

section Labels

theorem missingAlternative_ne_unnamed : missingAlternative ≠ unnamedRequirement := by decide

theorem missingAbsence_ne_unnamed : missingAbsence ≠ unnamedRequirement := by decide

/-- A text that names an element: its name comes first, and each of its phrases stands in it, between
quotes. -/
structure Element.NamedBy (leaf : Element) (label : String) : Prop where
  name : ∃ rest, label = leaf.name ++ rest
  phrases : ∀ phrase ∈ leaf.phrases, ∃ before after,
    label = before ++ ("\"" ++ phrase ++ "\"") ++ after

theorem exists_around_of_mem {phrases : List String} {phrase : String} (listed : phrase ∈ phrases)
    (before : String) : ∃ first after, before ++ "\"" ++ "\" or \"".intercalate phrases ++ "\"" =
      first ++ ("\"" ++ phrase ++ "\"") ++ after := by
  induction phrases generalizing before with
  | nil => cases listed
  | cons first rest ih =>
      rcases List.mem_cons.mp listed with rfl | later
      · cases rest with
        | nil => exact ⟨before, "", by simp [String.append_assoc]⟩
        | cons second others =>
            refine ⟨before, " or \"" ++ "\" or \"".intercalate (second :: others) ++ "\"", ?_⟩
            have seam : "\" or \"" = "\"" ++ " or \"" := by decide
            rw [String.intercalate_cons_cons, seam]
            simp only [String.append_assoc]
      · obtain ⟨second, others, rfl⟩ := List.exists_cons_of_ne_nil (List.ne_nil_of_mem later)
        obtain ⟨onward, after, spelled⟩ := ih later (before ++ "\"" ++ first ++ "\" or ")
        refine ⟨onward, after, ?_⟩
        rw [← spelled, String.intercalate_cons_cons]
        simp [String.append_assoc]

theorem Element.namedBy_label (leaf : Element) : leaf.NamedBy leaf.label where
  name := ⟨_, by rw [label, String.append_assoc, String.append_assoc]⟩
  phrases := by
    intro phrase listed
    obtain ⟨before, after, spelled⟩ := exists_around_of_mem listed (leaf.name ++ " (")
    refine ⟨before, after ++ ")", ?_⟩
    rw [← String.append_assoc, ← spelled, label]
    simp [String.append_assoc]

theorem Element.label_ne_unnamed (leaf : Element) : leaf.label ≠ unnamedRequirement := by
  intro same
  have closed : leaf.label.toList.getLast? = some ')' := by
    rw [label, String.toList_append, List.getLast?_append]
    rfl
  rw [same] at closed
  exact absurd closed (by decide)

end Labels

theorem Element.unmet_eq_nil_iff (leaf : Element) :
    leaf.unmet mentioned = [] ↔ leaf.Met mentioned := by
  by_cases met : leaf.Met mentioned <;> simp [unmet, met]

theorem Element.unnamed_not_mem_unmet (leaf : Element) :
    unnamedRequirement ∉ leaf.unmet mentioned := by
  by_cases met : leaf.Met mentioned
  · simp [unmet, met]
  · simp [unmet, met, leaf.label_ne_unnamed.symm]

namespace Condition

theorem childrenUnmet_eq_nil_iff {children : List Condition}
    (ih : ∀ child ∈ children, child.unmet mentioned = [] ↔ child.Holds mentioned) :
    childrenUnmet mentioned children = [] ↔ ∀ child ∈ children, child.Holds mentioned := by
  induction children with
  | nil => simp [childrenUnmet]
  | cons child rest ihRest =>
      obtain ⟨first, others⟩ := List.forall_mem_cons.mp ih
      rw [childrenUnmet, List.append_eq_nil_iff, List.forall_mem_cons, ihRest others]
      by_cases holds : child.Holds mentioned <;> simp [holds, first]

/-- A tree that does not hold lacks something, and one that holds lacks nothing. -/
theorem unmet_eq_nil_iff (condition : Condition) :
    condition.unmet mentioned = [] ↔ condition.Holds mentioned := by
  induction condition using Condition.induction with
  | element leaf => rw [unmet, Holds, Element.unmet_eq_nil_iff]
  | anyPhrase phrases => rw [unmet, Holds, Element.unmet_eq_nil_iff, Element.met_implicit_iff]
  | allOf children ih => rw [unmet, Holds, childrenUnmet_eq_nil_iff ih]
  | anyOf children _ => simp [unmet, Holds]
  | noneOf children _ => simp [unmet, Holds]
  | implies antecedent consequent _ ihConsequent =>
      rw [unmet, Holds]
      by_cases premise : antecedent.Holds mentioned
      · by_cases conclusion : consequent.Holds mentioned
        · simp [conclusion]
        · simp [premise, conclusion, ihConsequent]
      · simp [premise]

theorem unnamed_not_mem_childrenUnmet {children : List Condition}
    (ih : ∀ child ∈ children, unnamedRequirement ∉ child.unmet mentioned) :
    unnamedRequirement ∉ childrenUnmet mentioned children := by
  induction children with
  | nil => simp [childrenUnmet]
  | cons child rest ihRest =>
      obtain ⟨first, others⟩ := List.forall_mem_cons.mp ih
      rw [childrenUnmet, List.mem_append, not_or]
      refine ⟨?_, ihRest others⟩
      split
      · exact List.not_mem_nil
      · exact first

theorem unnamed_not_mem_unmet (condition : Condition) :
    unnamedRequirement ∉ condition.unmet mentioned := by
  induction condition using Condition.induction with
  | element leaf => rw [unmet]; exact leaf.unnamed_not_mem_unmet
  | anyPhrase phrases => rw [unmet]; exact (Element.implicit phrases).unnamed_not_mem_unmet
  | allOf children ih => rw [unmet]; exact unnamed_not_mem_childrenUnmet ih
  | anyOf children _ =>
      rw [unmet]
      split <;> simp [missingAlternative_ne_unnamed.symm]
  | noneOf children _ =>
      rw [unmet]
      split <;> simp [missingAbsence_ne_unnamed.symm]
  | implies antecedent consequent _ ihConsequent =>
      rw [unmet]
      split
      · exact ihConsequent
      · exact List.not_mem_nil

end Condition

namespace Verdict

variable {search : String → List Evidence}

theorem ofElement_missing (found : ∀ phrase, search phrase ≠ [] ↔ mentioned phrase)
    (leaf : Element) : (ofElement leaf search).missing = leaf.unmet mentioned := by
  have named : (ofElement leaf search).missing =
      if (ofElement leaf search).satisfied then [] else [leaf.label] := by
    by_cases unmatched :
        (leaf.phrases.map search).countP (fun evidence => !evidence.isEmpty) = 0
    · cases required : leaf.required <;> simp [ofElement, unmatched, required]
    · have matched := Nat.pos_of_ne_zero unmatched
      simp only [ofElement, unmatched, matched, decide_true, decide_false, Bool.true_or,
        Bool.false_and, Bool.false_eq_true, ↓reduceIte]
  rw [named, Element.unmet]
  simp only [ofElement_satisfied_iff found]

theorem disjunction_missing (verdicts : List Verdict) :
    (disjunction verdicts).missing =
      if (disjunction verdicts).satisfied then [] else [missingAlternative] := by
  simp [disjunction]

theorem exclusion_missing (verdicts : List Verdict) :
    (exclusion verdicts).missing =
      if (exclusion verdicts).satisfied then [] else [missingAbsence] :=
  rfl

theorem lacking_of_explained {verdict : Verdict} {condition : Condition}
    (truth : verdict.satisfied = true ↔ condition.Holds mentioned)
    (explained : verdict.missing = condition.unmet mentioned) :
    verdict.lacking = if condition.Holds mentioned then [] else condition.unmet mentioned := by
  rw [lacking, explained]
  by_cases holds : condition.Holds mentioned
  · simp [truth, holds]
  · have something : condition.unmet mentioned ≠ [] := mt condition.unmet_eq_nil_iff.mp holds
    simp [truth, holds, something]

end Verdict

namespace Condition

variable {search : String → List Evidence}

theorem flatMap_lacking (found : ∀ phrase, search phrase ≠ [] ↔ mentioned phrase)
    {children : List Condition}
    (ih : ∀ child ∈ children, (child.verdict search).missing = child.unmet mentioned) :
    (verdicts search children).flatMap Verdict.lacking = childrenUnmet mentioned children := by
  induction children with
  | nil => rfl
  | cons child rest ihRest =>
      obtain ⟨first, others⟩ := List.forall_mem_cons.mp ih
      rw [verdicts, List.flatMap_cons, ihRest others, childrenUnmet,
        Verdict.lacking_of_explained (verdict_satisfied_iff found child) first]

theorem verdict_missing (found : ∀ phrase, search phrase ≠ [] ↔ mentioned phrase)
    (condition : Condition) :
    (condition.verdict search).missing = condition.unmet mentioned := by
  induction condition using Condition.induction with
  | element leaf => rw [verdict, unmet, Verdict.ofElement_missing found]
  | anyPhrase phrases => rw [verdict, unmet, Verdict.ofElement_missing found]
  | allOf children ih => rw [verdict, unmet, Verdict.conjunction, flatMap_lacking found ih]
  | anyOf children _ =>
      have truth := verdict_satisfied_iff found (anyOf children)
      rw [verdict] at truth
      rw [verdict, unmet, Verdict.disjunction_missing]
      simp only [truth, Holds, exists_prop]
  | noneOf children _ =>
      have truth := verdict_satisfied_iff found (noneOf children)
      rw [verdict] at truth
      rw [verdict, unmet, Verdict.exclusion_missing]
      simp only [truth, Holds]
      by_cases present : ∃ child ∈ children, child.Holds mentioned
      · simp [present]
      · simp [present]
  | implies antecedent consequent _ ihConsequent =>
      have premise := verdict_satisfied_iff found antecedent
      have conclusion := verdict_satisfied_iff found consequent
      rw [verdict, unmet]
      by_cases holds : antecedent.Holds mentioned
      · simp only [premise, holds, ↓reduceIte, Verdict.implication, true_and,
          Verdict.lacking_of_explained conclusion ihConsequent, ite_not]
      · simp [premise, holds, Verdict.idle]

/-- Every failure is explained: a verdict that is not satisfied names what the tree lacks, each
element with all its phrases, one that is satisfied names nothing, and the words for an unexplained
failure are in no verdict and in no evaluation of a rule. -/
theorem missing_explains (condition : Condition) (document : Document) (radius : Nat) :
    let verdict := condition.evaluate document radius
    (verdict.missing = [] ↔ verdict.satisfied = true) ∧
      verdict.missing = condition.unmet document.Mentions ∧
      (∀ leaf : Element, ¬ leaf.Met document.Mentions → ∃ label,
        leaf.unmet document.Mentions = [label] ∧ leaf.NamedBy label) ∧
      unnamedRequirement ∉ verdict.missing ∧
      ∀ (rule : Rule) (clock : ClockReading),
        unnamedRequirement ∉ (rule.evaluate document radius clock).missing := by
  have found (phrase : String) := document.find_ne_nil_iff radius phrase
  have explained (tree : Condition) :
      (tree.evaluate document radius).missing = tree.unmet document.Mentions :=
    verdict_missing found tree
  have named (tree : Condition) :
      unnamedRequirement ∉ (tree.evaluate document radius).missing := by
    rw [explained]
    exact tree.unnamed_not_mem_unmet
  refine ⟨?_, explained condition, ?_, named condition, fun rule _ => named rule.condition⟩
  · rw [explained, unmet_eq_nil_iff]
    exact (verdict_satisfied_iff found condition).symm
  · intro leaf unmet
    exact ⟨leaf.label, if_neg unmet, leaf.namedBy_label⟩

example :
    (allOf [.element ⟨"a", ["alpha"], true⟩, .anyPhrase ["beta", "gamma"],
      .anyOf [.element ⟨"d", ["delta"], true⟩]]).unmet (· = "delta") =
    ["a (\"alpha\")", "alternative phrases (\"beta\" or \"gamma\")"] := by decide

end Condition

end Compliance
