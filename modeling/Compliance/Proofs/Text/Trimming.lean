import Mathlib.Data.List.Basic
import Compliance.Text.Blank

/-!
Trimmed texts. What is left of a text begins and ends with a letter, if anything is left, and it has
all the letters of the text; a text that begins and ends with a letter is left as it is.
-/

namespace Compliance.Text

theorem dropBlanks_cons_blank {c : Char} (blank : isBlank c = true) (rest : List Char) :
    dropBlanks (c :: rest) = dropBlanks rest := by
  rw [dropBlanks, List.dropWhile_cons_of_pos blank, dropBlanks]

theorem dropBlanks_cons_letter {c : Char} (letter : isBlank c = false) (rest : List Char) :
    dropBlanks (c :: rest) = c :: rest := by
  rw [dropBlanks, List.dropWhile_cons_of_neg (by simp [letter])]

theorem dropBlanksEnd_eq (text : List Char) :
    dropBlanksEnd text = (dropBlanks text.reverse).reverse :=
  rfl

theorem dropBlanksEnd_cons (c : Char) (rest : List Char) :
    dropBlanksEnd (c :: rest) =
      if (dropBlanksEnd rest).isEmpty && isBlank c then [] else c :: dropBlanksEnd rest := by
  rw [dropBlanksEnd_eq, dropBlanksEnd_eq, List.isEmpty_reverse, List.reverse_cons, dropBlanks,
    List.dropWhile_append, ← dropBlanks]
  cases empty : (dropBlanks rest.reverse).isEmpty with
  | false => simp
  | true =>
      have nothing : dropBlanks rest.reverse = [] := List.isEmpty_iff.mp empty
      cases blank : isBlank c <;> simp [nothing, blank]

/-- The text has a blank at neither end. -/
structure Flush (text : List Char) : Prop where
  opens : ∀ c ∈ text.head?, isBlank c = false
  closes : ∀ c ∈ text.getLast?, isBlank c = false

theorem head?_dropBlanks (text : List Char) : ∀ c ∈ (dropBlanks text).head?, isBlank c = false := by
  intro c first
  have visible := List.head?_dropWhile_not isBlank text
  rw [← dropBlanks, Option.mem_def.mp first] at visible
  exact visible

theorem dropBlanks_eq_self {text : List Char} (opens : ∀ c ∈ text.head?, isBlank c = false) :
    dropBlanks text = text := by
  cases text with
  | nil => rfl
  | cons c rest => exact dropBlanks_cons_letter (opens c rfl) rest

theorem flush_trimmed (text : List Char) : Flush (trimmed text) := by
  constructor
  case opens =>
    have shorter : trimmed text <+: dropBlanks text := by
      rw [trimmed, dropBlanksEnd_eq, ← List.reverse_suffix, List.reverse_reverse]
      exact List.dropWhile_suffix isBlank
    intro c first
    obtain ⟨dropped, whole⟩ := shorter
    apply head?_dropBlanks text
    rw [← whole, List.head?_append, Option.mem_def.mp first]
    rfl
  case closes =>
    intro c last
    rw [trimmed, dropBlanksEnd_eq, List.getLast?_reverse] at last
    exact head?_dropBlanks _ c last

theorem Flush.trimmed_eq {text : List Char} (flush : Flush text) : trimmed text = text := by
  have closes : ∀ c ∈ text.reverse.head?, isBlank c = false := by
    rw [List.head?_reverse]
    exact flush.closes
  rw [trimmed, dropBlanks_eq_self flush.opens, dropBlanksEnd_eq, dropBlanks_eq_self closes,
    List.reverse_reverse]

theorem filter_dropBlanks (text : List Char) :
    (dropBlanks text).filter (fun c => !isBlank c) = text.filter fun c => !isBlank c := by
  induction text with
  | nil => rfl
  | cons c rest ih =>
      cases blank : isBlank c with
      | true => rw [dropBlanks_cons_blank blank, ih, List.filter_cons_of_neg (by simp [blank])]
      | false => rw [dropBlanks_cons_letter blank]

theorem filter_trimmed (text : List Char) :
    (trimmed text).filter (fun c => !isBlank c) = text.filter fun c => !isBlank c := by
  rw [trimmed, dropBlanksEnd_eq, List.filter_reverse, filter_dropBlanks, List.filter_reverse,
    List.reverse_reverse, filter_dropBlanks]

end Compliance.Text
