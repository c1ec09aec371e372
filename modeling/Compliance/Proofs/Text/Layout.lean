import Mathlib.Data.List.Forall2
import Mathlib.Data.List.TakeWhile
import Compliance.Proofs.Text.Sigma

/-!
Texts that differ only in how they are laid out: in the case of their ASCII letters and in which
blanks, and how many of them, part two stretches of text. Their sentences have the same normal
forms, though a sigma is lowered by the letters around it and these may have changed their case.
-/

namespace Compliance.Text

/-- The same character, or the same ASCII letter in another case. -/
def Recased (c d : Char) : Prop := c.toLower = d.toLower

instance (c d : Char) : Decidable (Recased c d) :=
  inferInstanceAs (Decidable (c.toLower = d.toLower))

/-- One text is the other with letters recased and runs of blanks replaced by runs of blanks. -/
inductive Relaid : List Char → List Char → Prop
  | nil : Relaid [] []
  | letter {c d : Char} {text other : List Char} :
      Recased c d → Relaid text other → Relaid (c :: text) (d :: other)
  | run {blanks others text other : List Char} :
      blanks ≠ [] → allBlank blanks = true → others ≠ [] → allBlank others = true →
        Relaid text other → Relaid (blanks ++ text) (others ++ other)

section Letters

def letters : List Char :=
  ((List.range 26).map fun index => Char.ofNat (0x41 + index)) ++
    (List.range 26).map fun index => Char.ofNat (0x61 + index)

theorem mem_letters {c : Char} (letter : c.isAlpha = true) : c ∈ letters := by
  have range : (0x41 ≤ c.toNat ∧ c.toNat ≤ 0x5A) ∨ (0x61 ≤ c.toNat ∧ c.toNat ≤ 0x7A) := by
    have either : (decide (c.val ≥ 'A'.val ∧ c.val ≤ 'Z'.val) ||
        (decide (c.val ≥ 'a'.val) && decide (c.val ≤ 'z'.val))) = true := letter
    simpa [UInt32.le_iff_toNat_le] using either
  rw [← Char.ofNat_toNat c, letters, List.mem_append, List.mem_map, List.mem_map]
  rcases range with capital | small
  · exact .inl ⟨c.toNat - 0x41, List.mem_range.mpr (by omega), congrArg Char.ofNat (by omega)⟩
  · exact .inr ⟨c.toNat - 0x61, List.mem_range.mpr (by omega), congrArg Char.ofNat (by omega)⟩

/-- What holds of an ASCII letter in either case. -/
structure Plain (c : Char) : Prop where
  lowered : lowerChar c = [c.toLower]
  cased : cased.contains c = true
  regarded : caseIgnorable.contains c = false
  visible : isBlank c = false
  unmarked : isTerminator c = false
  other : c ≠ 'Σ'

theorem plain_of_mem_letters : ∀ c ∈ letters, Plain c := by
  have tried : letters.all (fun c => lowerChar c == [c.toLower] && cased.contains c &&
      !caseIgnorable.contains c && !isBlank c && !isTerminator c && c != 'Σ') = true := by
    decide +kernel
  intro c listed
  have each := List.all_eq_true.mp tried c listed
  simp only [Bool.and_eq_true, beq_iff_eq, Bool.not_eq_true', bne_iff_ne] at each
  obtain ⟨⟨⟨⟨⟨lowered, cased⟩, regarded⟩, visible⟩, unmarked⟩, other⟩ := each
  exact ⟨lowered, cased, regarded, visible, unmarked, other⟩

theorem toLower_cases (c : Char) :
    c.toLower = c ∨ c.isAlpha = true ∧ c.toLower.isAlpha = true := by
  by_cases capital : c.val ≥ 'A'.val ∧ c.val ≤ 'Z'.val
  · have small : c.toLower.val = c.val + ('a'.val - 'A'.val) :=
      congrArg Char.val (dif_pos capital)
    have range : c.toLower.val ≥ 'a'.val ∧ c.toLower.val ≤ 'z'.val := by
      rw [small]
      grind
    have before : c.isAlpha = true := (Bool.or_eq_true _ _).mpr (.inl (decide_eq_true capital))
    have after : c.toLower.isLower = true :=
      (Bool.and_eq_true _ _).mpr ⟨decide_eq_true range.1, decide_eq_true range.2⟩
    exact .inr ⟨before, (Bool.or_eq_true _ _).mpr (.inr after)⟩
  · exact .inl (dif_neg capital)

theorem Recased.cases {c d : Char} (recased : Recased c d) : c = d ∨ Plain c ∧ Plain d := by
  have plain {c : Char} (letter : c.isAlpha = true) : Plain c :=
    plain_of_mem_letters c (mem_letters letter)
  rw [Recased] at recased
  rcases toLower_cases c with same | ⟨letter, lowered⟩
  · rcases toLower_cases d with unchanged | ⟨other, small⟩
    · exact .inl (by rw [← same, recased, unchanged])
    · rw [← recased, same] at small
      exact .inr ⟨plain small, plain other⟩
  · rcases toLower_cases d with unchanged | ⟨other, _⟩
    · rw [recased, unchanged] at lowered
      exact .inr ⟨plain letter, plain lowered⟩
    · exact .inr ⟨plain letter, plain other⟩

theorem Recased.isBlank_eq {c d : Char} (recased : Recased c d) : isBlank c = isBlank d := by
  rcases recased.cases with rfl | ⟨left, right⟩
  · rfl
  · rw [left.visible, right.visible]

theorem Recased.isTerminator_eq {c d : Char} (recased : Recased c d) :
    isTerminator c = isTerminator d := by
  rcases recased.cases with rfl | ⟨left, right⟩
  · rfl
  · rw [left.unmarked, right.unmarked]

end Letters

section Lowering

theorem casedAfter_recased {c d : Char} (recased : Recased c d) (casedBefore : Bool) :
    casedAfter casedBefore c = casedAfter casedBefore d := by
  rcases recased.cases with rfl | ⟨left, right⟩
  · rfl
  · rw [casedAfter, casedAfter, left.regarded, right.regarded, left.cased, right.cased]

theorem casedAhead_recased {text other : List Char} (recased : List.Forall₂ Recased text other) :
    casedAhead text = casedAhead other := by
  induction recased with
  | nil => rfl
  | cons first _ ih =>
      rw [casedAhead, casedAhead, ih]
      rcases first.cases with rfl | ⟨left, right⟩
      · rfl
      · rw [left.regarded, right.regarded, left.cased, right.cased]

theorem lowerAt_recased {c d : Char} {text other : List Char} (first : Recased c d)
    (rest : List.Forall₂ Recased text other) (casedBefore : Bool) :
    lowerAt casedBefore c text = lowerAt casedBefore d other := by
  rw [lowerAt, lowerAt, casedAhead_recased rest]
  rcases first.cases with rfl | ⟨left, right⟩
  · rfl
  · rw [if_neg left.other, if_neg right.other, left.lowered, right.lowered,
      show c.toLower = d.toLower from first]

theorem lower_recased {text other : List Char} (recased : List.Forall₂ Recased text other) :
    lower text = lower other := by
  suffices onto : ∀ casedBefore done,
      lowerOnto casedBefore done text = lowerOnto casedBefore done other from onto false []
  induction recased with
  | nil => exact fun _ _ => rfl
  | cons first rest ih =>
      intro casedBefore done
      rw [lowerOnto, lowerOnto, lowerAt_recased first rest, casedAfter_recased first, ih]

end Lowering

section Words

def joins (text : List Char) : Bool := text.head?.any fun c => !isBlank c

theorem words_cons_letter {c : Char} (letter : isBlank c = false) (rest : List Char) :
    words (c :: rest) =
      if joins rest then (words rest).modifyHead (c :: ·) else [c] :: words rest := by
  cases rest with
  | nil => simp [joins, words, List.splitOnP_cons_eq_if_modifyHead, List.splitOnP_nil, letter]
  | cons next later =>
      cases blank : isBlank next with
      | true => simp [joins, blank, words_letter_blank letter blank, words_cons_blank blank]
      | false =>
          obtain ⟨first, others, words, more⟩ := words_letter_letter letter blank later
          simp [joins, blank, words, more]

theorem words_append_blanks {blanks : List Char} (blank : allBlank blanks = true)
    (text : List Char) : words (blanks ++ text) = words text := by
  induction blanks with
  | nil => rfl
  | cons c rest ih =>
      rw [allBlank, List.all_cons, Bool.and_eq_true] at blank
      rw [List.cons_append, words_cons_blank blank.1, ih blank.2]

theorem joins_append_blanks {blanks : List Char} (some : blanks ≠ [])
    (blank : allBlank blanks = true) (text : List Char) : joins (blanks ++ text) = false := by
  obtain ⟨c, rest, rfl⟩ := List.exists_cons_of_ne_nil some
  rw [allBlank, List.all_cons, Bool.and_eq_true] at blank
  simp [joins, blank.1]

theorem Relaid.joins_eq {text other : List Char} (relaid : Relaid text other) :
    joins text = joins other := by
  cases relaid with
  | nil => rfl
  | letter recased rest => simp [joins, recased.isBlank_eq]
  | run some blank others blanks rest =>
      rw [joins_append_blanks some blank, joins_append_blanks others blanks]

theorem modifyHead_recased {c d : Char} (recased : Recased c d) {found given : List (List Char)}
    (same : List.Forall₂ (List.Forall₂ Recased) found given) :
    List.Forall₂ (List.Forall₂ Recased) (found.modifyHead (c :: ·))
      (given.modifyHead (d :: ·)) := by
  cases same with
  | nil => exact .nil
  | cons first rest => exact .cons (.cons recased first) rest

theorem Relaid.words {text other : List Char} (relaid : Relaid text other) :
    List.Forall₂ (List.Forall₂ Recased) (words text) (words other) := by
  induction relaid with
  | nil => exact List.Forall₂.nil
  | @letter c d text other recased rest ih =>
      cases blank : isBlank c with
      | true =>
          have other : isBlank d = true := by rw [← recased.isBlank_eq, blank]
          rw [words_cons_blank blank, words_cons_blank other]
          exact ih
      | false =>
          have other : isBlank d = false := by rw [← recased.isBlank_eq, blank]
          rw [words_cons_letter blank, words_cons_letter other, rest.joins_eq]
          split
          · exact modifyHead_recased recased ih
          · exact .cons (.cons recased .nil) ih
  | run some blank others blanks rest ih =>
      rw [words_append_blanks blank, words_append_blanks blanks]
      exact ih

theorem Relaid.normal_eq {text other : List Char} (relaid : Relaid text other) :
    normal text = normal other := by
  have lowered : (Text.words text).map lower = (Text.words other).map lower := by
    rw [← List.forall₂_eq_eq_eq, List.forall₂_map_left_iff, List.forall₂_map_right_iff]
    exact relaid.words.imp fun _ _ => lower_recased
  rw [normal, normal, lowered]

end Words

section Sentences

/-- Letters and blanks end no sentence, so the pieces between marks are laid out anew one by one. -/
theorem Relaid.pieces {text other : List Char} (relaid : Relaid text other) :
    List.Forall₂ Relaid (text.splitOnP isTerminator) (other.splitOnP isTerminator) := by
  induction relaid with
  | nil => exact .cons .nil .nil
  | @letter c d text other recased rest ih =>
      cases marked : isTerminator c with
      | true =>
          have mark : isTerminator d = true := by rw [← recased.isTerminator_eq, marked]
          rw [splitOnP_cons_separator marked, splitOnP_cons_separator mark]
          exact .cons .nil ih
      | false =>
          have mark : isTerminator d = false := by rw [← recased.isTerminator_eq, marked]
          obtain ⟨first, later, pieces, more⟩ := splitOnP_cons_letter marked text
          obtain ⟨start, next, others, longer⟩ := splitOnP_cons_letter mark other
          rw [pieces, others] at ih
          rw [more, longer]
          cases ih with
          | cons same remaining => exact .cons (.letter recased same) remaining
  | @run blanks others text other some blank nonempty allBlanks rest ih =>
      have unmarked {run : List Char} (blank : allBlank run = true) :
          ∀ c ∈ run, isTerminator c = false :=
        fun c member => unmarked_of_blank (List.all_eq_true.mp blank c member)
      obtain ⟨first, later, pieces⟩ :=
        List.exists_cons_of_ne_nil (List.splitOnP_ne_nil isTerminator text)
      obtain ⟨start, next, split⟩ :=
        List.exists_cons_of_ne_nil (List.splitOnP_ne_nil isTerminator other)
      rw [pieces, split] at ih
      rw [splitOnP_append_letters (unmarked blank) pieces,
        splitOnP_append_letters (unmarked allBlanks) split]
      cases ih with
      | cons same remaining => exact .cons (.run some blank nonempty allBlanks same) remaining

theorem isEmpty_trimmed (piece : List Char) : (trimmed piece).isEmpty = (normal piece).isEmpty := by
  rw [Bool.eq_iff_iff, List.isEmpty_iff, List.isEmpty_iff, trimmed_eq_nil_iff, normal_eq_nil_iff]

theorem map_normal_sentences (text : List Char) :
    (sentences text).map normal =
      ((text.splitOnP isTerminator).map normal).filter fun form => !form.isEmpty := by
  have kept : (fun sentence : List Char => !sentence.isEmpty) ∘ trimmed =
      (fun form : List Char => !form.isEmpty) ∘ normal := by
    funext piece
    simp only [Function.comp_apply, isEmpty_trimmed]
  have same : normal ∘ trimmed = normal := funext normal_trimmed
  rw [sentences, List.filter_map, List.filter_map, List.map_map, same, kept]

theorem Relaid.normal_sentences_eq {text other : List Char} (relaid : Relaid text other) :
    (sentences text).map normal = (sentences other).map normal := by
  have pieces : (text.splitOnP isTerminator).map normal =
      (other.splitOnP isTerminator).map normal := by
    rw [← List.forall₂_eq_eq_eq, List.forall₂_map_left_iff, List.forall₂_map_right_iff]
    exact relaid.pieces.imp fun _ _ => Relaid.normal_eq
  rw [map_normal_sentences, map_normal_sentences, pieces]

end Sentences

end Compliance.Text
