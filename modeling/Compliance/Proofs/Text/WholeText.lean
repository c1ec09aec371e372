import Mathlib.Data.List.Induction
import Compliance.Proofs.Text.Sigma
import Compliance.Proofs.Text.Trimming

/-!
The normal form of a text, said for the text as a whole: all of it is lowered, with each capital
sigma by the letters on both sides of it, runs of blanks become one space, and the ends are trimmed.
Words can be lowered one by one instead, since no sigma sees past a blank and lower case neither
makes blanks nor removes them.
-/

namespace Compliance.Text

section Lowering

/-- Going on from a place, the first character that is not skipped is a cased letter. -/
def meetsCased (text : List Char) : Bool :=
  (text.dropWhile caseIgnorable.contains).head?.any cased.contains

/-- A capital sigma in lower case between two stretches of text, the one of which is gone through
backwards. -/
def lowerSigma (before after : List Char) : Char :=
  if meetsCased before.reverse && !meetsCased after then 'ς' else 'σ'

def lowerBetween (before : List Char) (c : Char) (after : List Char) : List Char :=
  if c = 'Σ' then [lowerSigma before after] else lowerChar c

/-- The lower case of a text, told for each place by all that stands before it and after it. -/
def lowerEach (text : List Char) : List Char :=
  text.zipIdx.flatMap fun entry =>
    lowerBetween (text.take entry.2) entry.1 (text.drop (entry.2 + 1))

theorem meetsCased_cons (c : Char) (rest : List Char) :
    meetsCased (c :: rest) =
      if caseIgnorable.contains c then meetsCased rest else cased.contains c := by
  rw [meetsCased, List.dropWhile_cons]
  split <;> rfl

theorem casedAhead_eq (text : List Char) : casedAhead text = meetsCased text := by
  induction text with
  | nil => rfl
  | cons c rest ih => rw [casedAhead, meetsCased_cons, ih]

theorem casedBehind_eq (text : List Char) : casedBehind text = meetsCased text.reverse := by
  induction text using List.reverseRecOn with
  | nil => rfl
  | append_singleton before c ih =>
      rw [casedBehind_append_singleton, casedAfter, ih, List.reverse_append, List.reverse_singleton,
        List.singleton_append, meetsCased_cons]

theorem lowerAt_eq (before : List Char) (c : Char) (after : List Char) :
    lowerAt (casedBehind before) c after = lowerBetween before c after := by
  rw [lowerAt, casedBehind_eq, casedAhead_eq, lowerBetween, lowerSigma]
  split
  · split <;> rfl
  · rfl

/-- Going through a text with what was seen last in mind comes to the same as looking both ways from
every place. -/
theorem lower_eq_lowerEach (text : List Char) : lower text = lowerEach text := by
  suffices general : ∀ done rest, text = done ++ rest →
      lowerIn (casedBehind done) [] rest = (rest.zipIdx done.length).flatMap fun entry =>
        lowerBetween (text.take entry.2) entry.1 (text.drop (entry.2 + 1)) by
    rw [lower_eq_lowerIn]
    exact general [] text rfl
  intro done rest split
  induction rest generalizing done with
  | nil => rfl
  | cons c rest ih =>
      have before : text.take done.length = done := by rw [split, List.take_left]
      have after : text.drop (done.length + 1) = rest := by
        rw [split, ← List.drop_drop, List.drop_left]
        rfl
      have later := ih (done ++ [c]) (by simpa using split)
      rw [List.length_append, List.length_singleton] at later
      rw [lowerIn, ← casedBehind_append_singleton, later, List.append_nil, lowerAt_eq,
        List.zipIdx_cons, List.flatMap_cons, before, after]

end Lowering

section Collapsing

/-- Every run of blanks becomes one space. -/
def collapsed : List Char → List Char
  | [] => []
  | c :: rest =>
      if !isBlank c then c :: collapsed rest
      else if rest.head?.any isBlank then collapsed rest
      else ' ' :: collapsed rest

theorem collapsed_cons_letter {c : Char} (letter : isBlank c = false) (rest : List Char) :
    collapsed (c :: rest) = c :: collapsed rest := by
  simp [collapsed, letter]

theorem collapsed_cons_blank {c : Char} (blank : isBlank c = true) (rest : List Char) :
    collapsed (c :: rest) =
      if rest.head?.any isBlank then collapsed rest else ' ' :: collapsed rest := by
  simp [collapsed, blank]

theorem dropBlanks_collapsed (text : List Char) :
    dropBlanks (collapsed text) = collapsed (dropBlanks text) := by
  induction text with
  | nil => rfl
  | cons c rest ih =>
      cases blank : isBlank c with
      | false =>
          rw [collapsed_cons_letter blank, dropBlanks_cons_letter blank,
            dropBlanks_cons_letter blank, collapsed_cons_letter blank]
      | true =>
          rw [collapsed_cons_blank blank, dropBlanks_cons_blank blank]
          split
          · exact ih
          · rw [dropBlanks_cons_blank rfl, ih]

theorem gap_cons_letter {c : Char} (letter : isBlank c = false) (rest : List Char) :
    gap (c :: rest) = [] := by
  simp [gap, letter]

theorem dropBlanksEnd_collapsed (text : List Char) :
    dropBlanksEnd (collapsed text) = gap text ++ spaced text := by
  induction text with
  | nil => simp [collapsed, dropBlanksEnd, gap, spaced]
  | cons c rest ih =>
      cases blank : isBlank c with
      | false =>
          rw [collapsed_cons_letter blank, dropBlanksEnd_cons, blank, Bool.and_false, ih,
            gap_cons_letter blank, spaced_cons_letter blank]
          rfl
      | true =>
          rw [collapsed_cons_blank blank, spaced_cons_blank blank]
          cases rest with
          | nil =>
              have nothing : dropBlanksEnd (' ' :: collapsed []) = [] := rfl
              simp [nothing, gap, spaced, allBlank, blank]
          | cons next later =>
              cases run : isBlank next with
              | true => simp [ih, gap, allBlank, blank, run]
              | false =>
                  rw [gap_cons_letter run, spaced_cons_letter run] at ih
                  simp [dropBlanksEnd_cons, ih, gap, allBlank, blank, run, spaced_cons_letter run]

theorem trimmed_collapsed (text : List Char) : trimmed (collapsed text) = spaced text := by
  have flush : gap (dropBlanks text) = [] := by
    cases left : dropBlanks text with
    | nil => rfl
    | cons c rest => exact gap_cons_letter (head?_dropBlanks text c (by rw [left]; rfl)) rest
  rw [trimmed, dropBlanks_collapsed, dropBlanksEnd_collapsed, flush, List.nil_append, spaced,
    words_dropBlanks, ← spaced]

end Collapsing

end Compliance.Text

namespace Compliance

/-- The words of a text lowered one by one are the text lowered as a whole, with its runs of blanks
collapsed and its ends trimmed. -/
theorem normalForm_eq_whole (text : String) :
    (normalForm text).toList = Text.trimmed (Text.collapsed (Text.lowerEach text.toList)) := by
  rw [toList_normalForm, Text.normal_eq_spaced, Text.trimmed_collapsed, Text.lower_eq_lowerEach]

example : Text.trimmed (Text.collapsed (Text.lowerEach " AΣ'\t\nΣ\u2003".toList)) = "aς' σ".toList := by
  decide +kernel

end Compliance
