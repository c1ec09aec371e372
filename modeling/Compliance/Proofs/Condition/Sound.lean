import Compliance.Condition.Structure
import Compliance.Proofs.Condition.Induction

/-!
What the structural check of condition trees accepts: trees in which every element has a name,
every list of phrases has a phrase and no blank one, and every other node has a child.
-/

namespace Compliance

def Searchable (phrases : List String) : Prop :=
  phrases ≠ [] ∧ ∀ phrase ∈ phrases, isBlankText phrase = false

theorem checkPhrases_eq_ok_iff (owner : PhraseOwner) (phrases : List String) :
    checkPhrases owner phrases = .ok () ↔ Searchable phrases := by
  unfold checkPhrases Searchable
  split
  · rename_i empty
    simp [List.isEmpty_iff.mp empty]
  · rename_i present
    have written : phrases ≠ [] := by simpa using present
    split
    · rename_i blank
      obtain ⟨phrase, member, isBlank⟩ := List.any_eq_true.mp blank
      simp only [reduceCtorEq, false_iff, not_and]
      intro _ visible
      simp [visible phrase member] at isBlank
    · rename_i visible
      have none : ∀ phrase ∈ phrases, isBlankText phrase = false := by simpa using visible
      exact iff_of_true rfl ⟨written, none⟩

namespace Condition

/-- Well-formed trees, said without the check. -/
def Sound : Condition → Prop
  | element leaf => isBlankText leaf.name = false ∧ Searchable leaf.phrases
  | anyPhrase phrases => Searchable phrases
  | allOf children => children ≠ [] ∧ ∀ child, child ∈ children → child.Sound
  | anyOf children => children ≠ [] ∧ ∀ child, child ∈ children → child.Sound
  | noneOf children => children ≠ [] ∧ ∀ child, child ∈ children → child.Sound
  | implies antecedent consequent => antecedent.Sound ∧ consequent.Sound

theorem checkSiblings_eq_ok_iff (children : List Condition) :
    checkSiblings children = .ok () ↔ ∀ child ∈ children, child.check = .ok () := by
  induction children with
  | nil => simp [checkSiblings]
  | cons child rest ih =>
      rw [checkSiblings, List.forall_mem_cons, ← ih]
      cases child.check <;> simp

theorem checkChildren_eq_ok_iff (operator : Operator) (children : List Condition) :
    checkChildren operator children = .ok () ↔
      children ≠ [] ∧ ∀ child ∈ children, child.check = .ok () := by
  cases children with
  | nil => simp [checkChildren]
  | cons child rest =>
      rw [checkChildren, List.forall_mem_cons, ← checkSiblings_eq_ok_iff]
      cases child.check <;> simp

theorem check_eq_ok_iff (condition : Condition) : condition.check = .ok () ↔ condition.Sound := by
  induction condition using Condition.induction with
  | element leaf =>
      rw [check, Sound, Element.check, ← checkPhrases_eq_ok_iff (.element leaf.name)]
      cases isBlankText leaf.name <;> simp
  | anyPhrase phrases => rw [check, Sound, checkPhrases_eq_ok_iff]
  | allOf children ih | anyOf children ih | noneOf children ih =>
      rw [check, Sound, checkChildren_eq_ok_iff]
      exact and_congr_right fun _ => forall₂_congr ih
  | implies antecedent consequent ihAntecedent ihConsequent =>
      rw [check, Sound, ← ihAntecedent, ← ihConsequent]
      cases antecedent.check <;> simp

theorem mem_childPhrases (phrase : String) (children : List Condition) :
    phrase ∈ childPhrases children ↔ ∃ child ∈ children, phrase ∈ child.phrases := by
  induction children with
  | nil => simp [childPhrases]
  | cons child rest ih => simp [childPhrases, ih]

theorem Sound.phrases_visible {condition : Condition} (sound : condition.Sound) :
    ∀ phrase ∈ condition.phrases, isBlankText phrase = false := by
  induction condition using Condition.induction with
  | element leaf =>
      rw [Sound] at sound
      exact sound.2.2
  | anyPhrase phrases =>
      rw [Sound] at sound
      exact sound.2
  | allOf children ih | anyOf children ih | noneOf children ih =>
      rw [Sound] at sound
      intro phrase member
      obtain ⟨child, listed, written⟩ := (mem_childPhrases phrase children).mp member
      exact ih child listed (sound.2 child listed) phrase written
  | implies antecedent consequent ihAntecedent ihConsequent =>
      rw [Sound] at sound
      intro phrase member
      rcases List.mem_append.mp member with inAntecedent | inConsequent
      · exact ihAntecedent sound.1 phrase inAntecedent
      · exact ihConsequent sound.2 phrase inConsequent

end Condition

end Compliance
