import Compliance.Proofs.Condition.Views
import Compliance.Proofs.Text.Layout

/-!
What the layout of a document has a say in. The search goes by normal forms alone, so a document
that is laid out anew, with other blanks and its ASCII letters in another case, has the same verdicts
as before, with evidence for the same phrases in the same places.
-/

namespace Compliance

def Evidence.located (item : Evidence) : String × Nat × Float :=
  (item.phrase, item.sentenceIndex, item.confidence)

theorem Evidence.map_located_scan (radius : Nat) (phrase : String) {sentences forms : List String}
    (size : forms.length = sentences.length) :
    (scan radius phrase sentences forms).map located =
      if (normalForm phrase).isEmpty then [] else
        forms.zipIdx.filterMap fun (form, index) =>
          (Match.between (normalForm phrase) form).map fun found =>
            (phrase, index, found.confidence) := by
  have both : (sentences.zip forms).map Prod.snd = forms := List.map_snd_zip (Nat.le_of_eq size)
  rw [scan]
  simp only
  split
  · rfl
  · conv => rhs; rw [← both, List.zipIdx_map, List.filterMap_map]
    rw [List.map_filterMap]
    apply List.filterMap_congr
    rintro ⟨⟨sentence, form⟩, index⟩ _
    simp only [at?, Option.map_map]
    rfl

theorem Document.map_located_find (document : Document) (radius : Nat) (phrase : String) :
    (document.find radius phrase).map Evidence.located =
      if (normalForm phrase).isEmpty then [] else
        document.normalForms.zipIdx.filterMap fun (form, index) =>
          (Match.between (normalForm phrase) form).map fun found =>
            (phrase, index, found.confidence) := by
  refine Evidence.map_located_scan radius phrase ?_
  rw [document.normalForms_eq, List.length_map]

theorem Condition.evaluate_of_normalForms {left right : Document}
    (same : left.normalForms = right.normalForms) (condition : Condition)
    (leftRadius rightRadius : Nat) :
    Verdict.SameBy Evidence.located (condition.evaluate left leftRadius)
      (condition.evaluate right rightRadius) := by
  apply Condition.verdict_of_same
  intro phrase
  rw [left.map_located_find, right.map_located_find, same]

namespace Document

theorem normalForms_ofText_eq (text : String) :
    (ofText text).normalForms =
      ((Text.sentences text.toList).map Text.normal).map String.ofList := by
  rw [normalForms_ofText, List.map_map]
  rfl

/-- Neither the blanks between words nor the case of ASCII letters matter in a document. -/
theorem ofText_relaid {text other : String} (relaid : Text.Relaid text.toList other.toList) :
    (ofText text).normalForms = (ofText other).normalForms ∧
      ∀ (condition : Condition) (radius otherRadius : Nat),
        Verdict.SameBy Evidence.located (condition.evaluate (ofText text) radius)
          (condition.evaluate (ofText other) otherRadius) := by
  have forms : (ofText text).normalForms = (ofText other).normalForms := by
    rw [normalForms_ofText_eq, normalForms_ofText_eq, relaid.normal_sentences_eq]
  exact ⟨forms, Condition.evaluate_of_normalForms forms⟩

/-- A sigma at the end of a word, a space that becomes a tab and a line feed, and other cases. -/
theorem ofText_relaid_sigma :
    Text.Relaid "aΣ b. ".toList "AΣ\t\nB.\u00a0".toList ∧
      (ofText "aΣ b. ").normalForms = ["aς b"] ∧
      (ofText "AΣ\t\nB.\u00a0").normalForms = ["aς b"] ∧
      Verdict.SameBy Evidence.located
        (Condition.evaluate (.anyPhrase ["aς B"]) (ofText "aΣ b. ") 1)
        (Condition.evaluate (.anyPhrase ["aς B"]) (ofText "AΣ\t\nB.\u00a0") 0) := by
  have tab : Text.Relaid [' ', 'b', '.', ' '] ['\t', '\n', 'B', '.', '\u00a0'] :=
    @Text.Relaid.run [' '] ['\t', '\n'] _ _ (by decide) (by decide) (by decide) (by decide)
      (.letter (by decide) (.letter (by decide)
        (@Text.Relaid.run [' '] ['\u00a0'] _ _ (by decide) (by decide) (by decide) (by decide)
          .nil)))
  have relaid : Text.Relaid "aΣ b. ".toList "AΣ\t\nB.\u00a0".toList :=
    .letter (by decide) (.letter (by decide) tab)
  obtain ⟨forms, verdicts⟩ := ofText_relaid relaid
  have found : (ofText "aΣ b. ").normalForms = ["aς b"] := by decide +kernel
  refine ⟨relaid, found, ?_, verdicts (.anyPhrase ["aς B"]) 1 0⟩
  rw [← forms, found]

end Document

end Compliance
