import Compliance.Proofs.Condition.Truth
import Compliance.Proofs.Text.Segments

/-!
Condition trees that ask only for mentions. A document that mentions more satisfies all of them that
it satisfied before, and a text mentions more when another text is written after it or before it with
a mark between the two: it mentions just what the one or the other does.
-/

namespace Compliance

namespace Condition

/-- Nothing is excluded and nothing is asked for on a condition, at whatever depth. -/
def Positive : Condition → Prop
  | element _ => True
  | allOf children => ∀ child, child ∈ children → child.Positive
  | anyPhrase _ => True
  | anyOf children => ∀ child, child ∈ children → child.Positive
  | noneOf _ => False
  | implies _ _ => False

end Condition

section Mentions

variable {mentioned more : String → Prop} (kept : ∀ phrase, mentioned phrase → more phrase)
include kept

theorem Element.Met.mono {leaf : Element} (met : leaf.Met mentioned) : leaf.Met more := by
  rcases met with optional | ⟨phrase, listed, there⟩
  · exact .inl optional
  · exact .inr ⟨phrase, listed, kept phrase there⟩

theorem Condition.Positive.holds_mono {condition : Condition} (positive : condition.Positive)
    (holds : condition.Holds mentioned) : condition.Holds more := by
  induction condition using Condition.induction with
  | element leaf =>
      rw [Holds] at holds ⊢
      exact holds.mono kept
  | anyPhrase phrases =>
      rw [Holds] at holds ⊢
      obtain ⟨phrase, listed, there⟩ := holds
      exact ⟨phrase, listed, kept phrase there⟩
  | allOf children ih =>
      rw [Positive] at positive
      rw [Holds] at holds ⊢
      exact fun child member => ih child member (positive child member) (holds child member)
  | anyOf children ih =>
      rw [Positive] at positive
      rw [Holds] at holds ⊢
      obtain ⟨child, member, there⟩ := holds
      exact ⟨child, member, ih child member (positive child member) there⟩
  | noneOf children _ =>
      rw [Positive] at positive
      exact positive.elim
  | implies antecedent consequent _ _ =>
      rw [Positive] at positive
      exact positive.elim

end Mentions

theorem Condition.Positive.satisfied_mono {condition : Condition} (positive : condition.Positive)
    {left right : Document} (kept : ∀ phrase, left.Mentions phrase → right.Mentions phrase)
    {leftRadius rightRadius : Nat}
    (satisfied : (condition.evaluate left leftRadius).satisfied = true) :
    (condition.evaluate right rightRadius).satisfied = true := by
  rw [evaluate, verdict_satisfied_iff (left.find_ne_nil_iff leftRadius)] at satisfied
  rw [evaluate, verdict_satisfied_iff (right.find_ne_nil_iff rightRadius)]
  exact positive.holds_mono kept satisfied

section Joined

variable {mark : Char} (terminator : Text.isTerminator mark = true) (left right : String)
include terminator

theorem Document.normalForms_ofText_append :
    (ofText (left ++ String.singleton mark ++ right)).normalForms =
      (ofText left).normalForms ++ (ofText right).normalForms := by
  have ofText_eq (text : String) :
      (ofText text).normalForms = (splitSentences text).map normalForm := rfl
  rw [ofText_eq, splitSentences_append_mark terminator, List.map_append, ofText_eq, ofText_eq]

theorem Document.mentions_ofText_append (phrase : String) :
    (ofText (left ++ String.singleton mark ++ right)).Mentions phrase ↔
      (ofText left).Mentions phrase ∨ (ofText right).Mentions phrase := by
  simp only [Mentions, Contains, normalForms_ofText_append terminator, List.mem_append, or_and_right,
    exists_or, ← and_or_left]

end Joined

namespace Condition

/-- What a text satisfies of a positive condition is not undone by another text, whether this is
added after it or before it. -/
theorem evaluate_ofText_added {condition : Condition} (positive : condition.Positive) {mark : Char}
    (terminator : Text.isTerminator mark = true) {text : String} {radius : Nat}
    (satisfied : (condition.evaluate (Document.ofText text) radius).satisfied = true)
    (added : String) :
    (condition.evaluate (Document.ofText (text ++ String.singleton mark ++ added))
        radius).satisfied = true ∧
      (condition.evaluate (Document.ofText (added ++ String.singleton mark ++ text))
        radius).satisfied = true := by
  constructor
  · apply positive.satisfied_mono _ satisfied
    intro phrase there
    exact (Document.mentions_ofText_append terminator text added phrase).mpr (.inl there)
  · apply positive.satisfied_mono _ satisfied
    intro phrase there
    exact (Document.mentions_ofText_append terminator added text phrase).mpr (.inr there)

/-- Only the mark keeps the last word of the text from going on in the added one. -/
theorem evaluate_ofText_added_word :
    let condition : Condition := .allOf [.element ⟨"arrest", ["arrested"], true⟩,
      .anyOf [.anyPhrase ["searched"], .element ⟨"caution", ["cautioned", "told"], true⟩]]
    condition.Positive ∧ Text.isTerminator '?' = true ∧
      (condition.evaluate (Document.ofText "Arrested, then TOLD") 1).satisfied = true ∧
      (condition.evaluate (Document.ofText "Arrested, then TOLD?ing him") 1).satisfied = true ∧
      (condition.evaluate (Document.ofText "ing him?Arrested, then TOLD") 1).satisfied = true := by
  intro condition
  have positive : condition.Positive := by simp [condition, Positive]
  have satisfied : (condition.evaluate (Document.ofText "Arrested, then TOLD") 1).satisfied = true := by
    decide +kernel
  have terminator : Text.isTerminator '?' = true := rfl
  obtain ⟨after, before⟩ := evaluate_ofText_added positive terminator satisfied "ing him"
  exact ⟨positive, terminator, satisfied, after, before⟩

end Condition

end Compliance
