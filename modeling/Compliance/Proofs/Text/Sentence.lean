import Compliance.Proofs.Text.Caseless
import Compliance.Proofs.Text.Trimming
import Compliance.Text.Document

/-!
What becomes of the marks that end sentences. No sentence holds one, lower case neither makes nor
removes one, and so the normal form of a text holds those that the text holds. A text without them
is one sentence, whose normal form is that of the text.
-/

namespace Compliance.Text

theorem splitOnP_cons_letter {separates : Char → Bool} {c : Char} (letter : separates c = false)
    (rest : List Char) : ∃ first others, rest.splitOnP separates = first :: others ∧
      (c :: rest).splitOnP separates = (c :: first) :: others := by
  obtain ⟨first, others, pieces⟩ :=
    List.exists_cons_of_ne_nil (List.splitOnP_ne_nil separates rest)
  refine ⟨first, others, pieces, ?_⟩
  simp [List.splitOnP_cons_eq_if_modifyHead, letter, pieces]

theorem splitOnP_cons_separator {separates : Char → Bool} {c : Char} (separator : separates c = true)
    (rest : List Char) : (c :: rest).splitOnP separates = [] :: rest.splitOnP separates := by
  simp [List.splitOnP_cons_eq_if_modifyHead, separator]

theorem flatten_splitOnP (separates : Char → Bool) (text : List Char) :
    (text.splitOnP separates).flatten = text.filter fun c => !separates c := by
  induction text with
  | nil => simp [List.splitOnP_nil]
  | cons c rest ih =>
      by_cases separator : separates c = true
      · rw [splitOnP_cons_separator separator, List.flatten_cons, ih]
        simp [separator]
      · have letter : separates c = false := by simpa using separator
        obtain ⟨first, others, pieces, more⟩ := splitOnP_cons_letter letter rest
        rw [pieces, List.flatten_cons] at ih
        rw [more, List.flatten_cons, List.cons_append, ih]
        simp [letter]

theorem mem_of_mem_splitOnP {separates : Char → Bool} {text piece : List Char}
    (listed : piece ∈ text.splitOnP separates) : ∀ c ∈ piece, c ∈ text ∧ separates c = false := by
  intro c member
  have kept : c ∈ (text.splitOnP separates).flatten := List.mem_flatten.mpr ⟨piece, listed, member⟩
  rw [flatten_splitOnP, List.mem_filter] at kept
  simpa using kept

section Trimming

theorem words_dropBlanks (text : List Char) : words (dropBlanks text) = words text := by
  induction text with
  | nil => rfl
  | cons c rest ih =>
      rw [dropBlanks, List.dropWhile_cons]
      split
      · rename_i blank
        rw [words_cons_blank blank]
        exact ih
      · rfl

theorem words_append_blank {c : Char} (blank : isBlank c = true) (text : List Char) :
    words (text ++ [c]) = words text := by
  rw [words, List.splitOnP_append_cons text [] blank, List.filter_append]
  simp [words, List.splitOnP_nil]

theorem words_dropBlanksEnd (text : List Char) : words (dropBlanksEnd text) = words text := by
  -- the blanks go from the end, so the induction is on the text read backwards
  suffices backwards : ∀ reversed : List Char,
      words (reversed.dropWhile isBlank).reverse = words reversed.reverse by
    rw [dropBlanksEnd, backwards, List.reverse_reverse]
  intro reversed
  induction reversed with
  | nil => rfl
  | cons c earlier ih =>
      rw [List.dropWhile_cons]
      split
      · rename_i blank
        rw [ih, List.reverse_cons, words_append_blank blank]
      · rfl

theorem words_trimmed (text : List Char) : words (trimmed text) = words text := by
  rw [trimmed, words_dropBlanksEnd, words_dropBlanks]

theorem normal_trimmed (text : List Char) : normal (trimmed text) = normal text := by
  rw [normal, words_trimmed, normal]

theorem mem_of_mem_trimmed {text : List Char} {c : Char} (member : c ∈ trimmed text) : c ∈ text := by
  rw [trimmed, dropBlanksEnd, List.mem_reverse] at member
  have inside := (List.dropWhile_sublist isBlank).subset member
  exact (List.dropWhile_sublist isBlank).subset (List.mem_reverse.mp inside)

theorem allBlank_trimmed_iff (text : List Char) :
    allBlank (trimmed text) = true ↔ allBlank text = true := by
  rw [← words_eq_nil_iff, words_trimmed, words_eq_nil_iff]

theorem trimmed_eq_nil_iff (text : List Char) : trimmed text = [] ↔ allBlank text = true := by
  rw [← allBlank_trimmed_iff]
  constructor
  · intro nothing
    rw [nothing]
    rfl
  · intro blank
    cases left : trimmed text with
    | nil => rfl
    | cons c rest =>
        have letter := (flush_trimmed text).opens c (by rw [left]; rfl)
        rw [left, allBlank, List.all_cons, letter] at blank
        contradiction

theorem trimmed_ne_nil {text : List Char} (visible : allBlank text = false) : trimmed text ≠ [] := by
  rw [Ne, trimmed_eq_nil_iff, visible]
  exact Bool.false_ne_true

end Trimming

theorem mem_of_mem_sentence {text sentence : List Char} (listed : sentence ∈ sentences text) :
    ∀ c ∈ sentence, c ∈ text ∧ isTerminator c = false := by
  simp only [sentences, List.mem_filter, List.mem_map] at listed
  obtain ⟨⟨piece, split, rfl⟩, _⟩ := listed
  intro c member
  exact mem_of_mem_splitOnP split c (mem_of_mem_trimmed member)

theorem sentences_of_unmarked {text : List Char} (unmarked : ∀ c ∈ text, isTerminator c = false)
    (visible : allBlank text = false) : sentences text = [trimmed text] := by
  have whole : text.splitOnP isTerminator = [text] := List.splitOnP_eq_singleton unmarked
  simp [sentences, whole, trimmed_ne_nil visible]

section Marks

variable {mark : Char} (terminator : isTerminator mark = true)
include terminator

theorem mark_cases : mark = '.' ∨ mark = '!' ∨ mark = '?' := by
  simpa [isTerminator, or_assoc] using terminator

theorem caseless_mark : Caseless mark := by
  rcases mark_cases terminator with rfl | rfl | rfl <;> decide +kernel

theorem isBlank_mark : isBlank mark = false := by
  rcases mark_cases terminator with rfl | rfl | rfl <;> decide

end Marks

theorem unmarked_of_blank {c : Char} (blank : isBlank c = true) : isTerminator c = false := by
  cases marked : isTerminator c with
  | false => rfl
  | true =>
      rw [isBlank_mark marked] at blank
      contradiction

theorem mem_intercalate_iff {mark separator : Char} (different : mark ≠ separator)
    (pieces : List (List Char)) :
    mark ∈ List.intercalate [separator] pieces ↔ ∃ piece ∈ pieces, mark ∈ piece := by
  induction pieces with
  | nil => simp
  | cons first others ih =>
      cases others with
      | nil => simp
      | cons second rest =>
          rw [List.intercalate_cons_cons, List.mem_append, List.mem_append, ih]
          simp [different]

theorem exists_word_iff {mark : Char} (visible : isBlank mark = false) (text : List Char) :
    (∃ word ∈ words text, mark ∈ word) ↔ mark ∈ text := by
  have held : (words text).flatten = text.filter fun c => !isBlank c := by
    rw [words, List.flatten_filter_not_isEmpty, flatten_splitOnP]
  rw [← List.mem_flatten, held, List.mem_filter]
  simp [visible]

theorem mem_normal_iff {mark : Char} (terminator : isTerminator mark = true) (text : List Char) :
    mark ∈ normal text ↔ mark ∈ text := by
  have visible := isBlank_mark terminator
  have caseless := caseless_mark terminator
  have different : mark ≠ ' ' := by
    rintro rfl
    exact absurd visible (by decide)
  rw [normal, mem_intercalate_iff different, ← exists_word_iff visible]
  constructor
  · rintro ⟨_, listed, member⟩
    obtain ⟨word, inText, rfl⟩ := List.mem_map.mp listed
    exact ⟨word, inText, (caseless.mem_lower_iff word).mp member⟩
  · rintro ⟨word, inText, member⟩
    exact ⟨lower word, List.mem_map_of_mem inText, (caseless.mem_lower_iff word).mpr member⟩

end Compliance.Text
