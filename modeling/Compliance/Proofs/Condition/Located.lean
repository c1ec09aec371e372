import Mathlib.Algebra.Order.BigOperators.Group.List
import Mathlib.Algebra.Order.Group.Nat
import Compliance.Proofs.Condition.Visited

/-!
How much evidence there can be and where it lies. A search finds a phrase at most once in a
sentence, and each connective keeps what was found for its children once, so there is no more
evidence than there are phrases in the tree and sentences in the document to pair with them.
-/

namespace Compliance

theorem Match.confidence_cases (found : Match) :
    found.confidence = 0.7 ∨ found.confidence = 0.9 ∨ found.confidence = 1.0 := by
  cases found with
  | whole => exact .inr (.inr rfl)
  | words => exact .inr (.inl rfl)
  | part => exact .inl rfl

namespace Evidence

theorem length_scan_le (radius : Nat) (phrase : String) (sentences forms : List String) :
    (scan radius phrase sentences forms).length ≤ sentences.length := by
  rw [scan]
  split
  · exact Nat.zero_le _
  · refine (List.length_filterMap_le _ _).trans ?_
    rw [List.length_zipIdx, List.length_zip]
    exact Nat.min_le_left _ _

theorem rated_of_mem_scan {radius : Nat} {phrase : String} {sentences forms : List String}
    {item : Evidence} (found : item ∈ scan radius phrase sentences forms) :
    item.confidence = 0.7 ∨ item.confidence = 0.9 ∨ item.confidence = 1.0 := by
  obtain ⟨_, _, _, _, _, _, given⟩ := mem_scan_iff.mp found
  obtain ⟨how, _, rfl⟩ := Option.map_eq_some_iff.mp given
  exact how.confidence_cases

/-- The evidence is for a phrase of the tree, and it quotes the sentence that it points to. -/
structure Located (condition : Condition) (document : Document) (item : Evidence) : Prop where
  named : item.phrase ∈ condition.phrases
  below : item.sentenceIndex < document.sentences.length
  quoted : document.sentences[item.sentenceIndex]? = some item.sentence
  rated : item.confidence = 0.7 ∨ item.confidence = 0.9 ∨ item.confidence = 1.0

end Evidence

namespace Condition

section Bound

variable {search : String → List Evidence} {bound : Nat}
  (each : ∀ phrase, (search phrase).length ≤ bound)
include each

theorem length_ofElement_le (leaf : Element) :
    (Verdict.ofElement leaf search).evidence.length ≤ leaf.phrases.length * bound := by
  rw [Verdict.ofElement, List.length_flatten, List.map_map]
  have sum := List.sum_le_card_nsmul (leaf.phrases.map (List.length ∘ search)) bound
    (List.forall_mem_map.mpr fun phrase _ => each phrase)
  rwa [List.length_map, Nat.nsmul_eq_mul] at sum

omit each in
theorem length_allEvidence_le {children : List Condition}
    (ih : ∀ child ∈ children,
      (child.verdict search).evidence.length ≤ child.phraseCount * bound) :
    (Verdict.allEvidence (verdicts search children)).length ≤
      childPhraseCount children * bound := by
  induction children with
  | nil => exact Nat.zero_le _
  | cons child rest ihRest =>
      obtain ⟨first, others⟩ := List.forall_mem_cons.mp ih
      have more := ihRest others
      rw [verdicts, Verdict.allEvidence, List.flatMap_cons, List.length_append, childPhraseCount,
        Nat.add_mul]
      exact Nat.add_le_add first more

theorem length_evidence_le (condition : Condition) :
    (condition.verdict search).evidence.length ≤ condition.phraseCount * bound := by
  induction condition using Condition.induction with
  | element leaf => exact length_ofElement_le each leaf
  | anyPhrase phrases => exact length_ofElement_le each (Element.implicit phrases)
  | allOf children ih | anyOf children ih | noneOf children ih =>
      rw [verdict, phraseCount]
      exact length_allEvidence_le ih
  | implies antecedent consequent ihAntecedent ihConsequent =>
      rw [verdict, phraseCount, Nat.add_mul]
      split
      · rw [Verdict.implication, List.length_append]
        exact Nat.add_le_add ihAntecedent ihConsequent
      · exact ihAntecedent.trans (Nat.le_add_right _ _)

end Bound

theorem located_of_mem_evidence {condition : Condition} {document : Document} {radius : Nat}
    {item : Evidence} (member : item ∈ (condition.evaluate document radius).evidence) :
    item.Located condition document := by
  obtain ⟨phrase, inTree, given⟩ :=
    exists_phrase_of_mem_evidence (document.find_ne_nil_iff radius) member
  obtain ⟨named, quoted, _⟩ := Evidence.of_mem_scan given
  exact ⟨named ▸ inTree, (List.getElem?_eq_some_iff.mp quoted).1, quoted,
    Evidence.rated_of_mem_scan given⟩

/-- Whatever the tree and the document, the evidence is no more than one piece for each phrase and
sentence, and each piece says where in both it belongs. -/
theorem evidence_bounded (condition : Condition) (document : Document) (radius : Nat) :
    (condition.evaluate document radius).evidence.length ≤
        condition.phraseCount * document.sentences.length ∧
      ∀ item ∈ (condition.evaluate document radius).evidence, item.Located condition document :=
  ⟨condition.length_evidence_le fun phrase => Evidence.length_scan_le radius phrase _ _,
    fun _ member => located_of_mem_evidence member⟩

/-- The bound is reached where all phrases stand in all sentences, though the consequent fails. -/
theorem evidence_bounded_attained :
    ((implies (.anyPhrase ["arrest", "ARREST"]) (.noneOf [.anyPhrase ["rest"]])).evaluate
        (.ofText "Arrested! Unarrested.") 1).evidence.length =
      (implies (.anyPhrase ["arrest", "ARREST"]) (.noneOf [.anyPhrase ["rest"]])).phraseCount *
        (Document.ofText "Arrested! Unarrested.").sentences.length ∧
    ∃ item : Evidence, item.phrase = "rest" ∧ item.sentence = "Unarrested" ∧
      item.Located (implies (.anyPhrase ["arrest", "ARREST"]) (.noneOf [.anyPhrase ["rest"]]))
        (.ofText "Arrested! Unarrested.") := by
  obtain ⟨bounded, located⟩ := evidence_bounded
    (implies (.anyPhrase ["arrest", "ARREST"]) (.noneOf [.anyPhrase ["rest"]]))
    (.ofText "Arrested! Unarrested.") 1
  have last : (((implies (.anyPhrase ["arrest", "ARREST"]) (.noneOf [.anyPhrase ["rest"]])).evaluate
      (.ofText "Arrested! Unarrested.") 1).evidence.map fun item => (item.phrase, item.sentence)) =
      [("arrest", "Arrested"), ("arrest", "Unarrested"), ("ARREST", "Arrested"),
        ("ARREST", "Unarrested"), ("rest", "Arrested"), ("rest", "Unarrested")] := by
    decide +kernel
  have listed : ("rest", "Unarrested") ∈ [("arrest", "Arrested"), ("arrest", "Unarrested"),
      ("ARREST", "Arrested"), ("ARREST", "Unarrested"), ("rest", "Arrested"),
      ("rest", "Unarrested")] := by decide
  obtain ⟨item, member, same⟩ := List.mem_map.mp (last ▸ listed)
  obtain ⟨phrase, sentence⟩ := Prod.mk.inj same
  refine ⟨bounded.antisymm ?_, item, phrase, sentence, located item member⟩
  decide +kernel

end Condition

end Compliance
