import Compliance.Text.Document

/-!
What is left of a text in its normal form. Nothing is left of a blank text, and something of every
other one.
-/

namespace Compliance.Text

theorem lowerChar_ne_nil (c : Char) : lowerChar c ≠ [] := by
  unfold lowerChar
  split
  · simp
  · split <;> simp

theorem lowerAt_ne_nil (casedBefore : Bool) (c : Char) (rest : List Char) :
    lowerAt casedBefore c rest ≠ [] := by
  unfold lowerAt
  split
  · split <;> simp
  · exact lowerChar_ne_nil c

theorem lowerOnto_eq_append (casedBefore : Bool) (done text : List Char) :
    lowerOnto casedBefore done text = done.reverse ++ lowerOnto casedBefore [] text := by
  induction text generalizing casedBefore done with
  | nil => simp [lowerOnto]
  | cons c rest ih =>
      rw [lowerOnto, ih, lowerOnto, ih _ (_ ++ [])]
      simp

theorem lower_cons_ne_nil (c : Char) (rest : List Char) : lower (c :: rest) ≠ [] := by
  rw [lower, lowerOnto, lowerOnto_eq_append]
  have something := lowerAt_ne_nil false c rest
  simp [something]

theorem lower_eq_nil_iff (text : List Char) : lower text = [] ↔ text = [] := by
  cases text with
  | nil => simp [lower, lowerOnto]
  | cons c rest => simp [lower_cons_ne_nil]

@[simp] theorem words_nil : words [] = [] := by
  simp [words, List.splitOnP_nil]

theorem words_cons_blank {c : Char} (blank : isBlank c = true) (rest : List Char) :
    words (c :: rest) = words rest := by
  simp [words, List.splitOnP_cons_eq_if_modifyHead, blank]

theorem words_cons_ne_nil {c : Char} (letter : isBlank c = false) (rest : List Char) :
    words (c :: rest) ≠ [] := by
  obtain ⟨first, others, pieces⟩ :=
    List.exists_cons_of_ne_nil (List.splitOnP_ne_nil isBlank rest)
  simp [words, List.splitOnP_cons_eq_if_modifyHead, letter, pieces]

theorem words_eq_nil_iff (text : List Char) : words text = [] ↔ allBlank text = true := by
  induction text with
  | nil => simp [allBlank]
  | cons c rest ih =>
      by_cases blank : isBlank c = true
      · rw [words_cons_blank blank, ih]
        simp [allBlank, blank]
      · have letter : isBlank c = false := by simpa using blank
        simp [words_cons_ne_nil letter, allBlank, letter]

theorem ne_nil_of_mem_words {text word : List Char} (member : word ∈ words text) : word ≠ [] := by
  simp only [words, List.mem_filter, Bool.not_eq_true', List.isEmpty_eq_false_iff] at member
  exact member.2

theorem intercalate_cons_eq_nil {separator first : List Char} {others : List (List Char)}
    (empty : List.intercalate separator (first :: others) = []) : first = [] := by
  cases others with
  | nil => simpa using empty
  | cons second rest =>
      rw [List.intercalate_cons_cons] at empty
      exact (List.append_eq_nil_iff.mp (List.append_eq_nil_iff.mp empty).1).1

theorem normal_eq_nil_iff (text : List Char) : normal text = [] ↔ allBlank text = true := by
  rw [← words_eq_nil_iff, normal]
  cases found : words text with
  | nil => simp
  | cons word others =>
      have member : word ∈ words text := by simp [found]
      simp only [List.map_cons, reduceCtorEq, iff_false]
      intro empty
      exact ne_nil_of_mem_words member ((lower_eq_nil_iff word).mp (intercalate_cons_eq_nil empty))

end Compliance.Text

namespace Compliance

theorem toList_normalForm (text : String) : (normalForm text).toList = Text.normal text.toList := by
  rw [normalForm, String.toList_ofList]

theorem normalForm_eq_empty_iff (text : String) :
    normalForm text = "" ↔ isBlankText text = true := by
  rw [isBlankText, ← Text.normal_eq_nil_iff, normalForm]
  exact String.ofList_eq_empty_iff

end Compliance
