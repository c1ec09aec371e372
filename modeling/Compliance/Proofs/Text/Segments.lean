import Compliance.Proofs.Text.Sentence

/-!
Cutting a text into sentences. A text is cut at its marks one by one, so the sentences of two texts
with a mark between them are those of the one and those of the other. No letter is lost, and
sentences written one after the other with a full stop between them are cut into just these.
-/

namespace Compliance.Text

/-- What a text has to be like to be a sentence. -/
structure IsSentence (text : List Char) : Prop where
  written : text ≠ []
  flush : Flush text
  unmarked : ∀ c ∈ text, isTerminator c = false

theorem isSentence_of_mem {text sentence : List Char} (listed : sentence ∈ sentences text) :
    IsSentence sentence := by
  have unmarked := fun c member => (mem_of_mem_sentence listed c member).2
  simp only [sentences, List.mem_filter, List.mem_map, Bool.not_eq_true',
    List.isEmpty_eq_false_iff] at listed
  obtain ⟨⟨piece, _, rfl⟩, written⟩ := listed
  exact ⟨written, flush_trimmed piece, unmarked⟩

theorem sentences_append_mark {mark : Char} (terminator : isTerminator mark = true)
    (left right : List Char) :
    sentences (left ++ mark :: right) = sentences left ++ sentences right := by
  rw [sentences, List.splitOnP_append_cons left right terminator, List.map_append,
    List.filter_append, ← sentences, ← sentences]

theorem filter_flatten_sentences (text : List Char) :
    (sentences text).flatten.filter (fun c => !isBlank c) =
      text.filter fun c => !isTerminator c && !isBlank c := by
  have kept : (List.filter fun c => !isBlank c) ∘ trimmed = List.filter fun c => !isBlank c :=
    funext filter_trimmed
  rw [sentences, List.flatten_filter_not_isEmpty, List.filter_flatten, List.map_map, kept,
    ← List.filter_flatten, flatten_splitOnP, List.filter_filter]
  apply List.filter_congr
  intro c _
  exact Bool.and_comm _ _

section Joining

theorem sentences_nil : sentences [] = [] := by
  rw [sentences, List.splitOnP_nil]
  rfl

theorem sentences_cons_blank {c : Char} (blank : isBlank c = true) (rest : List Char) :
    sentences (c :: rest) = sentences rest := by
  obtain ⟨first, others, pieces, more⟩ := splitOnP_cons_letter (unmarked_of_blank blank) rest
  have same : trimmed (c :: first) = trimmed first := by
    rw [trimmed, dropBlanks_cons_blank blank, trimmed]
  rw [sentences, sentences, more, pieces, List.map_cons, List.map_cons, same]

theorem IsSentence.sentences_eq {text : List Char} (sentence : IsSentence text) :
    sentences text = [text] := by
  obtain ⟨c, rest, rfl⟩ := List.exists_cons_of_ne_nil sentence.written
  have letter : isBlank c = false := sentence.flush.opens c rfl
  have visible : allBlank (c :: rest) = false := by rw [allBlank, List.all_cons, letter, Bool.false_and]
  rw [sentences_of_unmarked sentence.unmarked visible, sentence.flush.trimmed_eq]

theorem sentences_intercalate {listed : List (List Char)}
    (each : ∀ sentence ∈ listed, IsSentence sentence) :
    sentences (List.intercalate ['.', ' '] listed) = listed := by
  induction listed with
  | nil => exact sentences_nil
  | cons first others ih =>
      obtain ⟨sentence, rest⟩ := List.forall_mem_cons.mp each
      cases others with
      | nil => rw [List.intercalate_singleton, sentence.sentences_eq]
      | cons second later =>
          have parted : List.intercalate ['.', ' '] (first :: second :: later) =
              first ++ '.' :: ' ' :: List.intercalate ['.', ' '] (second :: later) := by
            rw [List.intercalate_cons_cons, List.append_assoc]
            rfl
          rw [parted, sentences_append_mark rfl, sentences_cons_blank rfl, ih rest,
            sentence.sentences_eq, List.singleton_append]

end Joining

end Compliance.Text

namespace Compliance

open Text (IsSentence)

theorem map_toList_splitSentences (text : String) :
    (splitSentences text).map String.toList = Text.sentences text.toList := by
  rw [splitSentences, List.map_map]
  simp [Function.comp_def]

theorem splitSentences_append_mark {mark : Char} (terminator : Text.isTerminator mark = true)
    (left right : String) :
    splitSentences (left ++ String.singleton mark ++ right) =
      splitSentences left ++ splitSentences right := by
  have spelled : (left ++ String.singleton mark ++ right).toList =
      left.toList ++ mark :: right.toList := by
    simp
  rw [splitSentences, spelled, Text.sentences_append_mark terminator, List.map_append,
    ← splitSentences, ← splitSentences]

theorem isSentence_of_mem_splitSentences {text sentence : String}
    (listed : sentence ∈ splitSentences text) : IsSentence sentence.toList := by
  have inText : sentence.toList ∈ Text.sentences text.toList := by
    rw [← map_toList_splitSentences]
    exact List.mem_map_of_mem listed
  exact Text.isSentence_of_mem inText

/-- Lists of sentences can be written as a text that is cut into them. -/
theorem splitSentences_intercalate {listed : List String}
    (each : ∀ sentence ∈ listed, IsSentence sentence.toList) :
    splitSentences (". ".intercalate listed) = listed := by
  have spelled : (". ".intercalate listed).toList =
      List.intercalate ['.', ' '] (listed.map String.toList) := String.toList_intercalate
  rw [splitSentences, spelled, Text.sentences_intercalate (List.forall_mem_map.mpr each),
    List.map_map]
  simp [Function.comp_def]

/-- Cutting a text into sentences loses nothing but marks and blanks: with another text after a mark
the sentences of both are found, all letters are kept in their order, and the sentences can be
written as a text again. -/
theorem splitSentences_lossless (text : String) :
    (∀ (other : String) (mark : Char), Text.isTerminator mark = true →
      splitSentences (text ++ String.singleton mark ++ other) =
        splitSentences text ++ splitSentences other) ∧
    (∀ sentence ∈ splitSentences text, IsSentence sentence.toList) ∧
    ((splitSentences text).flatMap String.toList).filter (fun c => !Text.isBlank c) =
      text.toList.filter (fun c => !Text.isTerminator c && !Text.isBlank c) ∧
    splitSentences (". ".intercalate (splitSentences text)) = splitSentences text := by
  refine ⟨fun other mark terminator => splitSentences_append_mark terminator text other,
    fun sentence listed => isSentence_of_mem_splitSentences listed, ?_,
    splitSentences_intercalate fun sentence listed => isSentence_of_mem_splitSentences listed⟩
  rw [List.flatMap_def, map_toList_splitSentences, Text.filter_flatten_sentences]

/-- Marks in a row, one of them after a no-break space, end one sentence. -/
theorem splitSentences_lossless_run :
    Text.isTerminator '!' = true ∧ splitSentences "Who\tgoes.\u00a0?" = ["Who\tgoes"] ∧
      splitSentences "Who\tgoes.\u00a0?! there" = ["Who\tgoes", "there"] ∧
      splitSentences "Who\tgoes. there" = ["Who\tgoes", "there"] := by
  have first : splitSentences "Who\tgoes.\u00a0?" = ["Who\tgoes"] := by decide +kernel
  have second : splitSentences " there" = ["there"] := by decide +kernel
  have both : splitSentences "Who\tgoes.\u00a0?! there" = ["Who\tgoes"] ++ ["there"] := by
    rw [← first, ← second]
    exact (splitSentences_lossless "Who\tgoes.\u00a0?").1 " there" '!' rfl
  obtain ⟨_, _, _, rejoined⟩ := splitSentences_lossless "Who\tgoes.\u00a0?! there"
  rw [both] at rejoined
  exact ⟨rfl, first, both, rejoined⟩

end Compliance
