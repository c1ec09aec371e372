import Compliance.Proofs.Mention
import Compliance.Proofs.Text.Occurrence

/-!
What the search for a phrase gives, sentence by sentence: evidence of just those sentences that
contain it, in their order, with a confidence that follows from the two normal forms.
-/

namespace Compliance

/-- The needle stands alone somewhere, and it is not too long to be looked for as whole words. -/
def FoundAsWords (needle form : String) : Prop :=
  needle.utf8ByteSize ≤ longestWordSearch ∧ Text.StandsAloneIn needle.toList form.toList

/-- How sure the search is of a sentence with this normal form, in which it found the needle. -/
structure Rated (needle form : String) (confidence : Float) : Prop where
  whole : confidence = 1.0 ↔ form = needle
  words : confidence = 0.9 ↔ form ≠ needle ∧ FoundAsWords needle form
  part : confidence = 0.7 ↔ form ≠ needle ∧ ¬ FoundAsWords needle form

namespace Match

theorem confidence_inj {left right : Match} (same : left.confidence = right.confidence) :
    left = right := by
  cases left <;> cases right <;> first | rfl | exact absurd same (by decide)

theorem between_cases {needle form : String} {found : Match} (written : needle ≠ "")
    (given : between needle form = some found) :
    (found = whole ∧ form = needle) ∨
      (found = words ∧ form ≠ needle ∧ FoundAsWords needle form) ∨
      (found = part ∧ form ≠ needle ∧ ¬ FoundAsWords needle form) := by
  have letters : needle.toList ≠ [] := by simpa using written
  have search : (decide (needle.utf8ByteSize ≤ longestWordSearch) &&
      Text.occursAlone needle.toList form.toList) = true ↔ FoundAsWords needle form := by
    rw [Bool.and_eq_true, decide_eq_true_eq, Text.occursAlone_iff letters, FoundAsWords]
  rw [between] at given
  split at given
  · cases given
  · split at given
    · rename_i same
      exact .inl ⟨(Option.some.inj given).symm, same⟩
    · rename_i different
      split at given
      · rename_i alone
        exact .inr (.inl ⟨(Option.some.inj given).symm, different, search.mp alone⟩)
      · rename_i inside
        have apart := fun alone => inside (search.mpr alone)
        exact .inr (.inr ⟨(Option.some.inj given).symm, different, apart⟩)

theorem rated_of_between {needle form : String} {found : Match} (written : needle ≠ "")
    (given : between needle form = some found) : Rated needle form found.confidence := by
  have same (other : Match) : found.confidence = other.confidence ↔ found = other :=
    ⟨confidence_inj, congrArg confidence⟩
  suffices (found = whole ↔ form = needle) ∧
      (found = words ↔ form ≠ needle ∧ FoundAsWords needle form) ∧
      (found = part ↔ form ≠ needle ∧ ¬ FoundAsWords needle form) from
    ⟨(same whole).trans this.1, (same words).trans this.2.1, (same part).trans this.2.2⟩
  rcases between_cases written given with
    ⟨rfl, equal⟩ | ⟨rfl, different, alone⟩ | ⟨rfl, different, inside⟩
  · simp [equal]
  · simp [different, alone]
  · simp [different, inside]

end Match

namespace Evidence

/-- A sentence gives evidence just if the phrase's normal form is part of its own. -/
theorem exists_mem_find_iff (radius : Nat) (phrase : String) (sentences : List String)
    (index : Nat) :
    (∃ evidence ∈ find radius phrase sentences, evidence.sentenceIndex = index) ↔
      isBlankText phrase = false ∧ ∃ sentence, sentences[index]? = some sentence ∧
        Text.normal phrase.toList <:+: Text.normal sentence.toList := by
  have size : (sentences.map normalForm).length = sentences.length := List.length_map normalForm
  rw [find, exists_mem_scan_iff radius phrase sentences _ size, Ne, normalForm_eq_empty_iff,
    Bool.not_eq_true, List.getElem?_map, toList_normalForm]
  refine and_congr_right fun _ => ?_
  constructor
  · rintro ⟨form, there, contained⟩
    obtain ⟨sentence, given, rfl⟩ := Option.map_eq_some_iff.mp there
    rw [toList_normalForm] at contained
    exact ⟨sentence, given, contained⟩
  · rintro ⟨sentence, given, contained⟩
    rw [← toList_normalForm sentence] at contained
    exact ⟨normalForm sentence, Option.map_eq_some_iff.mpr ⟨sentence, given, rfl⟩, contained⟩

variable {radius : Nat} {phrase : String} {sentences : List String}

theorem mem_find_iff {evidence : Evidence} :
    evidence ∈ find radius phrase sentences ↔ isBlankText phrase = false ∧
      ∃ index sentence, sentences[index]? = some sentence ∧
        at? radius phrase (normalForm phrase) sentences sentence (normalForm sentence) index =
          some evidence := by
  rw [find, mem_scan_iff, Ne, normalForm_eq_empty_iff, Bool.not_eq_true]
  refine and_congr_right fun _ => ?_
  constructor
  · rintro ⟨index, sentence, form, there, shown, given⟩
    rw [List.getElem?_map, there, Option.map_some, Option.some.injEq] at shown
    exact ⟨index, sentence, there, shown ▸ given⟩
  · rintro ⟨index, sentence, there, given⟩
    refine ⟨index, sentence, normalForm sentence, there, ?_, given⟩
    rw [List.getElem?_map, there, Option.map_some]

theorem ascending_find :
    ((find radius phrase sentences).map sentenceIndex).Pairwise (· < ·) := by
  rw [find, scan]
  split
  · exact List.Pairwise.nil
  · rw [List.pairwise_map]
    have positions : ((sentences.zip (sentences.map normalForm)).zipIdx).Pairwise
        fun left right => left.2 < right.2 := by
      rw [← List.pairwise_map, List.zipIdx_map_snd]
      exact List.pairwise_lt_range'
    refine positions.filterMap _ ?_
    intro left right before first given second other
    rw [sentenceIndex_of_at? given, sentenceIndex_of_at? other]
    exact before

/-- The evidence for a phrase told from the sentences: one piece for each that contains it. -/
structure Exact (radius : Nat) (phrase : String) (sentences : List String)
    (found : List Evidence) : Prop where
  ascending : (found.map sentenceIndex).Pairwise (· < ·)
  located : ∀ index, (∃ evidence ∈ found, evidence.sentenceIndex = index) ↔
    isBlankText phrase = false ∧ ∃ sentence, sentences[index]? = some sentence ∧
      Text.normal phrase.toList <:+: Text.normal sentence.toList
  carried : ∀ evidence ∈ found, evidence.phrase = phrase ∧
    sentences[evidence.sentenceIndex]? = some evidence.sentence ∧
    evidence.context = contextWindow radius sentences evidence.sentenceIndex
  rated : ∀ evidence ∈ found,
    Rated (normalForm phrase) (normalForm evidence.sentence) evidence.confidence
  refused : longestWordSearch < (normalForm phrase).utf8ByteSize → ∀ evidence ∈ found,
    evidence.confidence = if normalForm evidence.sentence = normalForm phrase then 1.0 else 0.7

theorem exact_find (radius : Nat) (phrase : String) (sentences : List String) :
    Exact radius phrase sentences (find radius phrase sentences) := by
  have rated : ∀ evidence ∈ find radius phrase sentences,
      Rated (normalForm phrase) (normalForm evidence.sentence) evidence.confidence := by
    intro evidence listed
    obtain ⟨visible, _, _, _, given⟩ := mem_find_iff.mp listed
    obtain ⟨found, matched, rfl⟩ := Option.map_eq_some_iff.mp given
    refine Match.rated_of_between ?_ matched
    rw [Ne, normalForm_eq_empty_iff, visible]
    exact Bool.false_ne_true
  refine ⟨ascending_find, exists_mem_find_iff radius phrase sentences, ?_, rated, ?_⟩
  · intro evidence listed
    obtain ⟨_, _, _, there, given⟩ := mem_find_iff.mp listed
    obtain ⟨_, _, rfl⟩ := Option.map_eq_some_iff.mp given
    exact ⟨rfl, there, rfl⟩
  · intro long evidence listed
    have never : ¬ FoundAsWords (normalForm phrase) (normalForm evidence.sentence) :=
      fun found => Nat.not_le_of_lt long found.1
    split
    · rename_i same
      exact (rated evidence listed).whole.mpr same
    · rename_i different
      exact (rated evidence listed).part.mpr ⟨different, never⟩

/-- The search gives exact evidence for every phrase, and for a document what it gives for the
sentences of its text. -/
theorem find_exact (radius : Nat) (phrase : String) :
    (∀ sentences, Exact radius phrase sentences (find radius phrase sentences)) ∧
      ∀ text, (Document.ofText text).find radius phrase =
        find radius phrase (splitSentences text) :=
  ⟨exact_find radius phrase, fun _ => rfl⟩

example : ((find 1 "ab-ab" ["AB-AB", "xab-ab-ab", "xab-abx"]).map Evidence.confidence) =
    [1.0, 0.9, 0.7] := by decide +kernel

end Evidence

end Compliance
