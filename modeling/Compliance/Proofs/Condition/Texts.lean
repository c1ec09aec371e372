import Compliance.Proofs.Condition.Sound
import Compliance.Proofs.Condition.Truth
import Compliance.Proofs.Text.Lines

/-!
The texts that a verdict is made of: names and phrases of the condition and words of the program,
besides what its evidence quotes. So where the condition has no line feed, neither has the verdict.
-/

namespace Compliance

/-- Nothing that the verdict says of itself holds a line feed. -/
structure Verdict.Plain (verdict : Verdict) : Prop where
  missing : ∀ requirement ∈ verdict.missing, Unbroken requirement
  details : Unbroken verdict.details

namespace Condition

mutual

def texts : Condition → List String
  | element leaf => leaf.name :: leaf.phrases
  | anyPhrase phrases => phrases
  | allOf children | anyOf children | noneOf children => childTexts children
  | implies antecedent consequent => antecedent.texts ++ consequent.texts

def childTexts : List Condition → List String
  | [] => []
  | child :: rest => child.texts ++ childTexts rest

end

def Plain (condition : Condition) : Prop := ∀ text ∈ condition.texts, Unbroken text

theorem mem_childTexts (text : String) (children : List Condition) :
    text ∈ childTexts children ↔ ∃ child ∈ children, text ∈ child.texts := by
  induction children with
  | nil => simp [childTexts]
  | cons child rest ih => simp [childTexts, ih]

end Condition

theorem Element.unbroken_label {leaf : Element} (name : Unbroken leaf.name)
    (phrases : ∀ phrase ∈ leaf.phrases, Unbroken phrase) : Unbroken leaf.label := by
  have separator : Unbroken "\" or \"" := by decide
  simp only [label, unbroken_append, name, unbroken_intercalate separator phrases]
  decide

namespace Verdict

theorem Plain.lacking {verdict : Verdict} (plain : verdict.Plain) :
    ∀ requirement ∈ verdict.lacking, Unbroken requirement := by
  rw [Verdict.lacking]
  split
  · exact fun _ absent => absurd absent List.not_mem_nil
  · split
    · decide
    · exact plain.missing

theorem plain_ofElement {leaf : Element} (name : Unbroken leaf.name)
    (phrases : ∀ phrase ∈ leaf.phrases, Unbroken phrase) (search : String → List Evidence) :
    (ofElement leaf search).Plain where
  missing := by
    rw [ofElement]
    dsimp only
    split
    · exact List.forall_mem_singleton.mpr (Element.unbroken_label name phrases)
    · exact fun _ absent => absurd absent List.not_mem_nil
  details := by
    rw [ofElement]
    dsimp only
    split
    · simp only [unbroken_append, name, unbroken_toString]
      decide
    · split
      · simp only [unbroken_append, name]
        decide
      · simp only [unbroken_append, name]
        decide

theorem plain_conjunction {verdicts : List Verdict} (plain : ∀ verdict ∈ verdicts, verdict.Plain) :
    (conjunction verdicts).Plain where
  missing := by
    intro requirement member
    obtain ⟨verdict, listed, inside⟩ := List.mem_flatMap.mp member
    exact (plain verdict listed).lacking requirement inside
  details := by
    simp only [conjunction, unbroken_append, unbroken_toString]
    decide

theorem plain_disjunction (verdicts : List Verdict) : (disjunction verdicts).Plain where
  missing := by
    rw [disjunction]
    dsimp only
    split <;> decide
  details := by
    simp only [disjunction, unbroken_append, unbroken_toString]
    decide

theorem plain_exclusion (verdicts : List Verdict) : (exclusion verdicts).Plain where
  missing := by
    rw [exclusion]
    dsimp only
    split <;> decide
  details := by
    rw [exclusion]
    dsimp only
    split
    · decide
    · simp only [unbroken_append, unbroken_toString]
      decide

theorem plain_idle (premise : Verdict) : (idle premise).Plain where
  missing := fun _ absent => absurd absent List.not_mem_nil
  details := by
    rw [idle]
    dsimp only
    decide

theorem plain_implication (premise : Verdict) {conclusion : Verdict} (plain : conclusion.Plain) :
    (implication premise conclusion).Plain where
  missing := plain.lacking
  details := by
    rw [implication, unbroken_append]
    refine ⟨by decide, ?_⟩
    split <;> decide

end Verdict

namespace Condition

theorem plain_verdict {condition : Condition} (plain : condition.Plain)
    (search : String → List Evidence) : (condition.verdict search).Plain := by
  induction condition using Condition.induction with
  | element leaf =>
      obtain ⟨name, phrases⟩ := List.forall_mem_cons.mp plain
      exact Verdict.plain_ofElement name phrases search
  | anyPhrase phrases =>
      apply Verdict.plain_ofElement
      · change Unbroken Element.implicitName
        decide
      · exact plain
  | allOf children ih =>
      apply Verdict.plain_conjunction
      rw [verdicts_eq_map, List.forall_mem_map]
      exact fun child listed => ih child listed fun text inside =>
        plain text ((mem_childTexts text children).mpr ⟨child, listed, inside⟩)
  | anyOf children _ => exact Verdict.plain_disjunction _
  | noneOf children _ => exact Verdict.plain_exclusion _
  | implies antecedent consequent _ ihConsequent =>
      rw [verdict]
      split
      · exact Verdict.plain_implication _ (ihConsequent (List.forall_mem_append.mp plain).2)
      · exact Verdict.plain_idle _

theorem phrases_subset_texts (condition : Condition) : condition.phrases ⊆ condition.texts := by
  induction condition using Condition.induction with
  | element leaf => exact fun _ listed => List.mem_cons_of_mem _ listed
  | anyPhrase phrases => exact fun _ listed => listed
  | allOf children ih | anyOf children ih | noneOf children ih =>
      intro phrase listed
      obtain ⟨child, member, inside⟩ := (mem_childPhrases phrase children).mp listed
      exact (mem_childTexts phrase children).mpr ⟨child, member, ih child member inside⟩
  | implies antecedent consequent ihAntecedent ihConsequent =>
      intro phrase listed
      rw [texts]
      exact (List.mem_append.mp listed).elim
        (fun first => List.mem_append_left _ (ihAntecedent first))
        (fun second => List.mem_append_right _ (ihConsequent second))

end Condition

end Compliance
