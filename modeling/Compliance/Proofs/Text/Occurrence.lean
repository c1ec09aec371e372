import Mathlib.Data.List.Basic
import Compliance.Evidence

/-!
Whole words, told by places in a text: what stands before a place and what comes after it. A needle
stands alone where a word boundary lies at both its ends, and the search tries every place.
-/

namespace Compliance.Text

/-- Of the characters next to a place just one is a word character; beyond the ends is none. -/
def WordBoundary (before after : List Char) : Prop :=
  (∃ c ∈ before.getLast?, isWordChar c = true) ↔ ¬ ∃ c ∈ after.head?, isWordChar c = true

/-- Somewhere in the text the needle stands with a word boundary at both its ends. -/
def StandsAloneIn (needle text : List Char) : Prop :=
  ∃ before after, before ++ needle ++ after = text ∧
    WordBoundary before (needle ++ after) ∧ WordBoundary (before ++ needle) after

theorem isBoundary_iff (before after : List Char) :
    isBoundary before.getLast? after.head? = true ↔ WordBoundary before after := by
  have left : before.getLast?.any isWordChar = true ↔
      ∃ c ∈ before.getLast?, isWordChar c = true := by
    cases before.getLast? <;> simp
  have right : after.head?.any isWordChar = true ↔ ∃ c ∈ after.head?, isWordChar c = true := by
    cases after.head? <;> simp
  rw [isBoundary, WordBoundary, ← left, ← right, bne_iff_ne]
  cases before.getLast?.any isWordChar <;> cases after.head?.any isWordChar <;> simp

variable {needle : List Char} (written : needle ≠ [])
include written

theorem standsAlone_iff (passed text : List Char) :
    standsAlone needle passed.getLast? text = true ↔ ∃ after, needle ++ after = text ∧
      WordBoundary passed (needle ++ after) ∧ WordBoundary (passed ++ needle) after := by
  have last : needle.getLast? = (passed ++ needle).getLast? :=
    (List.getLast?_append_of_ne_nil passed written).symm
  rw [standsAlone, last, Bool.and_eq_true, Bool.and_eq_true, List.isPrefixOf_iff_prefix,
    isBoundary_iff, isBoundary_iff]
  constructor
  · rintro ⟨⟨opens, after, rfl⟩, closes⟩
    rw [List.drop_left] at closes
    exact ⟨after, rfl, opens, closes⟩
  · rintro ⟨after, rfl, opens, closes⟩
    rw [List.drop_left]
    exact ⟨⟨opens, after, rfl⟩, closes⟩

theorem occursAloneAfter_iff (passed text : List Char) :
    occursAloneAfter needle passed.getLast? text = true ↔
      ∃ before after, before ++ needle ++ after = text ∧
        WordBoundary (passed ++ before) (needle ++ after) ∧
        WordBoundary (passed ++ before ++ needle) after := by
  induction text generalizing passed with
  | nil =>
      simp [occursAloneAfter, standsAlone_iff written, written]
  | cons c rest ih =>
      have moved : some c = (passed ++ [c]).getLast? := List.getLast?_concat.symm
      rw [occursAloneAfter, Bool.or_eq_true, standsAlone_iff written, moved, ih]
      constructor
      · rintro (⟨after, here, opens, closes⟩ | ⟨before, after, rfl, opens, closes⟩)
        · exact ⟨[], after, here, by simpa using opens, by simpa using closes⟩
        · exact ⟨c :: before, after, rfl, by simpa using opens, by simpa using closes⟩
      · rintro ⟨before, after, whole, opens, closes⟩
        cases before with
        | nil => exact .inl ⟨after, whole, by simpa using opens, by simpa using closes⟩
        | cons first before =>
            obtain ⟨rfl, rfl⟩ := List.cons.inj whole
            exact .inr ⟨before, after, rfl, by simpa using opens, by simpa using closes⟩

theorem occursAlone_iff (text : List Char) :
    occursAlone needle text = true ↔ StandsAloneIn needle text :=
  occursAloneAfter_iff written [] text

end Compliance.Text
