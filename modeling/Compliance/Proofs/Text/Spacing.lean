import Compliance.Proofs.Text.Sentence

/-!
The words of a text with one space between two of them. What this makes of a stretch of the text
stands in what it makes of the text, wherever the stretch begins and ends, and no letter is lost.
-/

namespace Compliance.Text

def spaced (text : List Char) : List Char :=
  List.intercalate [' '] (words text)

/-- What a letter is parted by from the words after it. -/
def gap (rest : List Char) : List Char :=
  if rest.head?.any isBlank && !allBlank rest then [' '] else []

theorem words_letter_blank {c blank : Char} (letter : isBlank c = false)
    (parts : isBlank blank = true) (rest : List Char) :
    words (c :: blank :: rest) = [c] :: words rest := by
  rw [words, List.splitOnP_cons_eq_if_modifyHead, splitOnP_cons_separator parts]
  simp [letter, words]

theorem words_letter_letter {c next : Char} (letter : isBlank c = false)
    (joined : isBlank next = false) (rest : List Char) : ∃ first others,
      words (next :: rest) = first :: others ∧
        words (c :: next :: rest) = (c :: first) :: others := by
  obtain ⟨piece, pieces, _, more⟩ := splitOnP_cons_letter joined rest
  refine ⟨next :: piece, pieces.filter (fun word => !word.isEmpty), ?_, ?_⟩
  · simp [words, more]
  · rw [words, List.splitOnP_cons_eq_if_modifyHead, more]
    simp [letter]

theorem spaced_of_allBlank {text : List Char} (blank : allBlank text = true) : spaced text = [] := by
  rw [spaced, (words_eq_nil_iff text).mpr blank, List.intercalate_nil]

theorem spaced_cons_blank {c : Char} (blank : isBlank c = true) (rest : List Char) :
    spaced (c :: rest) = spaced rest := by
  rw [spaced, words_cons_blank blank, spaced]

theorem spaced_cons_letter {c : Char} (letter : isBlank c = false) (rest : List Char) :
    spaced (c :: rest) = c :: (gap rest ++ spaced rest) := by
  cases rest with
  | nil => simp [spaced, gap, words, List.splitOnP_cons_eq_if_modifyHead, List.splitOnP_nil, letter]
  | cons next later =>
      by_cases parts : isBlank next = true
      · rw [spaced, words_letter_blank letter parts, spaced_cons_blank parts, spaced]
        cases following : words later with
        | nil =>
            have nothing := (words_eq_nil_iff later).mp following
            rw [allBlank] at nothing
            simp [gap, allBlank, parts, nothing]
        | cons word others =>
            have something : allBlank later = false := by
              rw [← Bool.not_eq_true, ← words_eq_nil_iff, following]
              exact List.cons_ne_nil word others
            rw [allBlank] at something
            simp [gap, allBlank, parts, something, List.intercalate_cons_cons]
      · have joined : isBlank next = false := by simpa using parts
        obtain ⟨first, others, words, more⟩ := words_letter_letter letter joined later
        rw [spaced, spaced, words, more]
        cases others <;> simp [gap, joined, List.intercalate_cons_cons]

theorem gap_append {text : List Char} (visible : allBlank text = false) (after : List Char) :
    gap (text ++ after) = gap text := by
  cases text with
  | nil => simp [allBlank] at visible
  | cons c rest =>
      have whole : allBlank (c :: rest ++ after) = false := by
        rw [allBlank, List.all_append, ← allBlank, visible, Bool.false_and]
      rw [gap, gap, whole, visible]
      rfl

theorem spaced_starts (text after : List Char) : spaced text <+: spaced (text ++ after) := by
  induction text with
  | nil => simp [spaced]
  | cons c rest ih =>
      rw [List.cons_append]
      by_cases blank : isBlank c = true
      · rw [spaced_cons_blank blank, spaced_cons_blank blank]
        exact ih
      · have letter : isBlank c = false := by simpa using blank
        rw [spaced_cons_letter letter, spaced_cons_letter letter, List.cons_prefix_cons]
        refine ⟨rfl, ?_⟩
        cases visible : allBlank rest with
        | true => simp [spaced_of_allBlank visible, gap, visible]
        | false =>
            rw [gap_append visible]
            exact (List.prefix_append_right_inj _).mpr ih

theorem spaced_ends (before text : List Char) : spaced text <:+ spaced (before ++ text) := by
  induction before with
  | nil => exact List.suffix_refl _
  | cons c rest ih =>
      rw [List.cons_append]
      by_cases blank : isBlank c = true
      · rw [spaced_cons_blank blank]
        exact ih
      · have letter : isBlank c = false := by simpa using blank
        rw [spaced_cons_letter letter]
        exact (ih.trans (List.suffix_append _ _)).trans (List.suffix_cons _ _)

theorem spaced_inside (before text after : List Char) :
    spaced text <:+: spaced (before ++ text ++ after) :=
  (spaced_ends before text).isInfix.trans (spaced_starts (before ++ text) after).isInfix

theorem count_spaced {letter : Char} (visible : isBlank letter = false) (text : List Char) :
    (spaced text).count letter = text.count letter := by
  have different : letter ≠ ' ' := by
    rintro rfl
    exact absurd visible (by decide)
  induction text with
  | nil => simp [spaced]
  | cons c rest ih =>
      by_cases blank : isBlank c = true
      · have other : c ≠ letter := by
          rintro rfl
          rw [visible] at blank
          contradiction
        rw [spaced_cons_blank blank, ih, List.count_cons_of_ne other]
      · have inText : isBlank c = false := by simpa using blank
        have none : (gap rest).count letter = 0 := by
          rw [gap]
          split <;> simp [different.symm]
        rw [spaced_cons_letter inText, List.count_cons, List.count_append, ih, none,
          List.count_cons, Nat.zero_add]

end Compliance.Text
