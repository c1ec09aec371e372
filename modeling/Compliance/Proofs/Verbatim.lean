import Compliance.Proofs.Evidence
import Compliance.Proofs.Text.Sigma

/-!
Which phrases are found wherever they are written letter for letter. Phrases and sentences are
lowered each by itself, and a capital sigma at an end of the phrase may become another letter than
it does in the sentence. No other phrase is missed.
-/

namespace Compliance.Evidence

/-- A phrase written in a sentence is found there if its capital sigmas are lowered as they are in
the phrase alone. It is found wherever it is written just if it is steady, as it is without a
capital sigma. -/
theorem find_verbatim (radius : Nat) {phrase : String} (visible : isBlankText phrase = false) :
    (∀ (sentences : List String) (index : Nat) (before after : String),
      sentences[index]? = some (before ++ phrase ++ after) →
      Text.SigmasKept before.toList phrase.toList after.toList →
      ∃ evidence ∈ find radius phrase sentences, evidence.sentenceIndex = index) ∧
    ((∀ (sentences : List String) (index : Nat) (sentence : String),
      sentences[index]? = some sentence → phrase.toList <:+: sentence.toList →
      ∃ evidence ∈ find radius phrase sentences, evidence.sentenceIndex = index) ↔
      Text.Steady phrase.toList) ∧
    ('Σ' ∉ phrase.toList → Text.Steady phrase.toList) := by
  refine ⟨?_, ⟨?_, ?_⟩, Text.steady_of_not_mem⟩
  · intro sentences index before after given kept
    refine (exists_mem_find_iff radius phrase sentences index).mpr ⟨visible, _, given, ?_⟩
    rw [String.toList_append, String.toList_append]
    exact Text.normal_infix_of_sigmasKept kept
  · intro everywhere
    refine Decidable.byContradiction fun unsteady => ?_
    obtain ⟨before, after, lost⟩ := Text.exists_not_infix_of_not_steady unsteady
    let sentence := String.ofList (before ++ phrase.toList ++ after)
    have spelled : sentence.toList = before ++ phrase.toList ++ after := String.toList_ofList
    have written : phrase.toList <:+: sentence.toList := ⟨before, after, spelled.symm⟩
    obtain ⟨_, other, given, contained⟩ := (exists_mem_find_iff radius phrase [sentence] 0).mp
      (everywhere [sentence] 0 sentence rfl written)
    obtain rfl : sentence = other := Option.some.inj given
    exact lost (spelled ▸ contained)
  · intro steady sentences index sentence given written
    obtain ⟨before, after, spelled⟩ := written
    refine (exists_mem_find_iff radius phrase sentences index).mpr ⟨visible, sentence, given, ?_⟩
    rw [← spelled]
    exact Text.normal_infix_of_sigmasKept (steady.sigmasKept before after)

/-- A Greek word in capitals is found as a word of its own, but not at the beginning of a longer
one. -/
theorem find_verbatim_street :
    isBlankText "ΟΔΟΣ" = false ∧ ¬ Text.Steady "ΟΔΟΣ".toList ∧
      (∃ evidence ∈ find 1 "ΟΔΟΣ" ["", "Η ΟΔΟΣ"], evidence.sentenceIndex = 1) ∧
      find 1 "ΟΔΟΣ" ["ΟΔΟΣΗΜΑΝΣΗ"] = [] ∧
      ∀ sentences index sentence, sentences[index]? = some sentence →
        "ΟΔΟ".toList <:+: sentence.toList →
        ∃ evidence ∈ find 1 "ΟΔΟ" sentences, evidence.sentenceIndex = index := by
  have visible : isBlankText "ΟΔΟΣ" = false := by decide
  have unsteady : ¬ Text.Steady "ΟΔΟΣ".toList := by decide +kernel
  obtain ⟨inPlace, _, _⟩ := find_verbatim 1 visible
  obtain ⟨_, everywhere, withoutSigma⟩ := find_verbatim 1 (show isBlankText "ΟΔΟ" = false by decide)
  refine ⟨visible, unsteady, ?_, by decide +kernel, everywhere.mpr (withoutSigma (by decide))⟩
  exact inPlace ["", "Η ΟΔΟΣ"] 1 "Η " "" rfl
    (Text.sigmasKept_of_alone (by decide +kernel) rfl "ΟΔΟΣ".toList)

end Compliance.Evidence
