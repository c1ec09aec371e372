import Compliance.Condition.Structure
import Compliance.Proofs.Condition.Sound
import Compliance.Proofs.Condition.Truth
import Compliance.Proofs.Text.Sentence

/-!
Which of the phrases that the check accepts can be found at all. A document is searched sentence by
sentence, and the marks that end sentences are in none of them: a phrase that holds one is found in
no document, and every other phrase in the document that consists of it.
-/

namespace Compliance

/-- A full stop, an exclamation or a question mark stands somewhere in the phrase. -/
def holdsTerminator (phrase : String) : Bool := phrase.toList.any Text.isTerminator

namespace Document

theorem isTerminator_of_mem_form {text form : String} (listed : form ∈ (ofText text).normalForms) :
    ∀ c ∈ form.toList, Text.isTerminator c = false := by
  rw [normalForms_ofText] at listed
  obtain ⟨sentence, inText, rfl⟩ := List.mem_map.mp listed
  intro c member
  rw [String.toList_ofList] at member
  cases marked : Text.isTerminator c with
  | false => rfl
  | true =>
      have inSentence := (Text.mem_normal_iff marked sentence).mp member
      rw [(Text.mem_of_mem_sentence inText c inSentence).2] at marked
      contradiction

theorem not_contains_of_holdsTerminator {phrase : String} (marked : holdsTerminator phrase = true)
    (text : String) : ¬ (ofText text).Contains phrase := by
  rintro ⟨form, listed, inside⟩
  obtain ⟨mark, inPhrase, terminator⟩ := List.any_eq_true.mp marked
  have inNeedle : mark ∈ (normalForm phrase).toList := by
    rw [toList_normalForm]
    exact (Text.mem_normal_iff terminator phrase.toList).mpr inPhrase
  have inForm := inside.subset inNeedle
  rw [isTerminator_of_mem_form listed mark inForm] at terminator
  contradiction

theorem ofText_contains_self {phrase : String} (unmarked : holdsTerminator phrase = false)
    (visible : isBlankText phrase = false) : (ofText phrase).Contains phrase := by
  have whole : Text.sentences phrase.toList = [Text.trimmed phrase.toList] := by
    apply Text.sentences_of_unmarked _ visible
    simpa [holdsTerminator] using unmarked
  refine ⟨normalForm phrase, ?_, List.infix_rfl⟩
  rw [normalForms_ofText, whole, List.map_singleton, Text.normal_trimmed]
  exact List.mem_singleton_self _

theorem mentions_ofText_self_iff {phrase : String} (visible : isBlankText phrase = false) :
    (ofText phrase).Mentions phrase ↔ holdsTerminator phrase = false := by
  rw [mentions_iff_contains _ visible]
  cases marked : holdsTerminator phrase with
  | false => exact iff_of_true (ofText_contains_self marked visible) rfl
  | true => simp [not_contains_of_holdsTerminator marked phrase]

end Document

theorem Document.find_ne_nil_iff_exists (document : Document) (radius : Nat) (phrase : String) :
    document.find radius phrase ≠ [] ↔
      ∃ evidence ∈ document.find radius phrase, evidence.phrase = phrase := by
  constructor
  · intro found
    obtain ⟨evidence, listed⟩ := List.exists_mem_of_ne_nil _ found
    exact ⟨evidence, listed, (Evidence.of_mem_scan listed).1⟩
  · rintro ⟨evidence, listed, _⟩
    exact List.ne_nil_of_mem listed

namespace Condition

def single (name phrase : String) : Condition :=
  .element { name, phrases := [phrase], required := true }

theorem satisfied_single_iff (name phrase : String) (document : Document) (radius : Nat) :
    ((single name phrase).evaluate document radius).satisfied = true ↔ document.Mentions phrase := by
  rw [evaluate, verdict_satisfied_iff (document.find_ne_nil_iff radius)]
  simp [single, Holds, Element.Met]

theorem evidence_single (name phrase : String) (document : Document) (radius : Nat) :
    ((single name phrase).evaluate document radius).evidence = document.find radius phrase := by
  simp [single, evaluate, verdict, Verdict.ofElement]

/-- A phrase that the check accepts is found in its own text exactly when it holds no terminator;
one that does is found in no text whatever. -/
theorem evaluate_ofText_self {owner : PhraseOwner} {phrase : String}
    (accepted : checkPhrases owner [phrase] = .ok ()) (name : String) (radius : Nat) :
    let verdictOn (text : String) := (single name phrase).evaluate (Document.ofText text) radius
    ((verdictOn phrase).satisfied = true ↔ holdsTerminator phrase = false) ∧
    ((∃ evidence ∈ (verdictOn phrase).evidence, evidence.phrase = phrase) ↔
      holdsTerminator phrase = false) ∧
    (holdsTerminator phrase = true →
      ∀ text, (verdictOn text).satisfied = false ∧ (verdictOn text).evidence = []) := by
  have visible : isBlankText phrase = false := by
    have searchable := (checkPhrases_eq_ok_iff owner [phrase]).mp accepted
    exact searchable.2 phrase (List.mem_singleton_self phrase)
  refine ⟨?_, ?_, ?_⟩
  · rw [satisfied_single_iff, Document.mentions_ofText_self_iff visible]
  · rw [evidence_single, ← Document.find_ne_nil_iff_exists, Document.find_ne_nil_iff,
      Document.mentions_ofText_self_iff visible]
  · intro marked text
    have unmentioned : ¬ (Document.ofText text).Mentions phrase := fun mentioned =>
      Document.not_contains_of_holdsTerminator marked text mentioned.2
    constructor
    · rw [← Bool.not_eq_true, satisfied_single_iff]
      exact unmentioned
    · rw [← Document.find_ne_nil_iff _ radius, not_not] at unmentioned
      rw [evidence_single, unmentioned]

/-- The number of a section, as rules cite it, is accepted and is not found in its own text. -/
theorem evaluate_ofText_self_section :
    checkPhrases (.element "ground") ["s.78"] = .ok () ∧
      ((single "ground" "s.78").evaluate (Document.ofText "s.78") 1).satisfied = false ∧
      ∀ text, ((single "ground" "s.78").evaluate (Document.ofText text) 1).evidence = [] := by
  have accepted : checkPhrases (.element "ground") ["s.78"] = .ok () := rfl
  have marked : holdsTerminator "s.78" = true := by decide
  obtain ⟨_, _, nowhere⟩ := evaluate_ofText_self accepted "ground" 1
  exact ⟨accepted, (nowhere marked "s.78").1, fun text => (nowhere marked text).2⟩

end Condition

end Compliance
