import Compliance.Proofs.Condition.Views
import Compliance.Proofs.Text.Segments

/-!
What the arrangement of a document's sentences has a say in. A verdict counts phrases and branches,
never sentences, so it does not tell documents apart that have the same sentences in another order or
some of them more often; only the evidence does.
-/

namespace Compliance

namespace Document

variable {left right : Document} (same : ∀ form, form ∈ left.normalForms ↔ form ∈ right.normalForms)
include same

theorem mentions_iff_of_same_forms (phrase : String) :
    left.Mentions phrase ↔ right.Mentions phrase := by
  simp only [Mentions, Contains, same]

theorem find_eq_nil_iff_of_same_forms (radius otherRadius : Nat) (phrase : String) :
    left.find radius phrase = [] ↔ right.find otherRadius phrase = [] := by
  rw [← not_iff_not, ← ne_eq, ← ne_eq, find_ne_nil_iff, find_ne_nil_iff,
    mentions_iff_of_same_forms same]

end Document

theorem Document.mem_normalForms_iff_of_same_sentences {left right : Document}
    (same : ∀ sentence, sentence ∈ left.sentences ↔ sentence ∈ right.sentences) (form : String) :
    form ∈ left.normalForms ↔ form ∈ right.normalForms := by
  simp only [left.normalForms_eq, right.normalForms_eq, List.mem_map, same]

namespace Condition

/-- Neither the order of the normal forms nor how often one comes up matters to a verdict, in
particular neither the order of the sentences nor their repetition. -/
theorem evaluate_rearranged (condition : Condition) (radius otherRadius : Nat) :
    (∀ left right : Document, (∀ form, form ∈ left.normalForms ↔ form ∈ right.normalForms) →
      Verdict.Alike (condition.evaluate left radius) (condition.evaluate right otherRadius)) ∧
    (∀ left right : Document,
      (∀ sentence, sentence ∈ left.sentences ↔ sentence ∈ right.sentences) →
      Verdict.Alike (condition.evaluate left radius) (condition.evaluate right otherRadius)) := by
  have byForms (left right : Document)
      (same : ∀ form, form ∈ left.normalForms ↔ form ∈ right.normalForms) :
      Verdict.Alike (condition.evaluate left radius) (condition.evaluate right otherRadius) :=
    condition.verdict_alike (Document.find_eq_nil_iff_of_same_forms same radius otherRadius)
  exact ⟨byForms, fun left right same =>
    byForms left right (Document.mem_normalForms_iff_of_same_sentences same)⟩

/-- Two sentences the other way round, one of them twice, and at first in another case: there is
more evidence, and the same is missing. -/
theorem evaluate_rearranged_repeated :
    let condition : Condition := .implies (.anyPhrase ["arrest"])
      (.allOf [.noneOf [.element ⟨"caution", ["told", "read"], true⟩], .anyPhrase ["search"]])
    let plain := Document.ofText "He read. An arrest"
    let recased := Document.ofText "An\tARREST! He read. An arrest"
    let repeated := Document.ofText "An arrest? He read. An arrest"
    (∀ form, form ∈ plain.normalForms ↔ form ∈ recased.normalForms) ∧
      (∀ sentence, sentence ∈ plain.sentences ↔ sentence ∈ repeated.sentences) ∧
      Verdict.Alike (condition.evaluate plain 1) (condition.evaluate recased 0) ∧
      Verdict.Alike (condition.evaluate plain 1) (condition.evaluate repeated 0) ∧
      (condition.evaluate plain 1).evidence.length = 2 ∧
      (condition.evaluate recased 0).evidence.length = 3 ∧
      (condition.evaluate recased 0).missing =
        [missingAbsence, "alternative phrases (\"search\")"] := by
  intro condition plain recased repeated
  have sameForms : ∀ form, form ∈ plain.normalForms ↔ form ∈ recased.normalForms := by
    have once : plain.normalForms = ["he read", "an arrest"] := by decide +kernel
    have twice : recased.normalForms = ["an arrest", "he read", "an arrest"] := by decide +kernel
    rw [once, twice]
    simp [or_comm]
  have sameSentences : ∀ sentence, sentence ∈ plain.sentences ↔ sentence ∈ repeated.sentences := by
    have once : plain.sentences = ["He read", "An arrest"] := by decide +kernel
    have twice : repeated.sentences = ["An arrest", "He read", "An arrest"] := by decide +kernel
    rw [once, twice]
    simp [or_comm]
  obtain ⟨byForms, bySentences⟩ := evaluate_rearranged condition 1 0
  exact ⟨sameForms, sameSentences, byForms plain recased sameForms,
    bySentences plain repeated sameSentences, by decide +kernel, by decide +kernel,
    by decide +kernel⟩

end Condition

end Compliance
