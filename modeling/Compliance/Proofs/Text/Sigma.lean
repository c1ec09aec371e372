import Compliance.Proofs.Text.Spacing

/-!
Lower case of a stretch of text in its place and by itself. The two differ only in a capital sigma
that is final by one of them and not by the other, and this needs a sigma next to an end of the
stretch, with nothing in between that decides whether it is final.
-/

namespace Compliance.Text

section Words

theorem splitOnP_append_letters {separates : Char → Bool} {letters text first : List Char}
    {others : List (List Char)} (joined : ∀ c ∈ letters, separates c = false)
    (pieces : text.splitOnP separates = first :: others) :
    (letters ++ text).splitOnP separates = (letters ++ first) :: others := by
  induction letters with
  | nil => exact pieces
  | cons c rest ih =>
      obtain ⟨letter, more⟩ := List.forall_mem_cons.mp joined
      rw [List.cons_append, List.splitOnP_cons_eq_if_modifyHead, ih more]
      simp [letter]

theorem isBlank_of_mem_lowerAt {c lowered : Char} {casedBefore : Bool} {rest : List Char}
    (letter : isBlank c = false) (member : lowered ∈ lowerAt casedBefore c rest) :
    isBlank lowered = false := by
  cases blank : isBlank lowered with
  | false => rfl
  | true =>
      have same := ((caseless_of_blank blank).mem_lowerAt_iff casedBefore c rest).mp member
      rw [← same, blank] at letter
      contradiction

theorem casedAhead_of_pieces {text first : List Char} {others : List (List Char)}
    (pieces : text.splitOnP isBlank = first :: others) : casedAhead text = casedAhead first := by
  induction text generalizing first others with
  | nil =>
      rw [List.splitOnP_nil, List.cons.injEq] at pieces
      rw [← pieces.1]
  | cons c rest ih =>
      by_cases blank : isBlank c = true
      · rw [splitOnP_cons_separator blank, List.cons.injEq] at pieces
        rw [casedAhead_blank blank, ← pieces.1, casedAhead]
      · have letter : isBlank c = false := by simpa using blank
        obtain ⟨word, more, found, joined⟩ := splitOnP_cons_letter letter rest
        rw [joined, List.cons.injEq] at pieces
        rw [← pieces.1, casedAhead, casedAhead, ih found]

theorem lowerAt_of_pieces {rest first : List Char} {others : List (List Char)}
    (pieces : rest.splitOnP isBlank = first :: others) (casedBefore : Bool) (c : Char) :
    lowerAt casedBefore c rest = lowerAt casedBefore c first := by
  rw [lowerAt, lowerAt, casedAhead_of_pieces pieces]

theorem splitOnP_lowerOnto (casedBefore : Bool) {text first : List Char}
    {others : List (List Char)} (pieces : text.splitOnP isBlank = first :: others) :
    (lowerOnto casedBefore [] text).splitOnP isBlank =
      lowerOnto casedBefore [] first :: others.map lower := by
  induction text generalizing casedBefore first others with
  | nil =>
      rw [List.splitOnP_nil, List.cons.injEq] at pieces
      obtain ⟨rfl, rfl⟩ := pieces
      simp [lowerOnto, List.splitOnP_nil]
  | cons c rest ih =>
      obtain ⟨word, more, found⟩ := List.exists_cons_of_ne_nil (List.splitOnP_ne_nil isBlank rest)
      rw [lowerOnto, lowerOnto_eq_append, List.append_nil, List.reverse_reverse]
      by_cases blank : isBlank c = true
      · rw [splitOnP_cons_separator blank, List.cons.injEq] at pieces
        obtain ⟨rfl, rfl⟩ := pieces
        rw [(caseless_of_blank blank).lowerAt_eq, casedAfter_blank blank, List.singleton_append,
          splitOnP_cons_separator blank, ih false found, found]
        rfl
      · have letter : isBlank c = false := by simpa using blank
        obtain ⟨word', more', found', joined⟩ := splitOnP_cons_letter letter rest
        rw [found, List.cons.injEq] at found'
        obtain ⟨rfl, rfl⟩ := found'
        rw [joined, List.cons.injEq] at pieces
        obtain ⟨rfl, rfl⟩ := pieces
        have visible : ∀ lowered ∈ lowerAt casedBefore c rest, isBlank lowered = false :=
          fun lowered member => isBlank_of_mem_lowerAt letter member
        rw [splitOnP_append_letters visible (ih _ found), lowerAt_of_pieces found, lowerOnto,
          lowerOnto_eq_append _ (_ ++ [])]
        simp

/-- It does not matter whether a text is cut into words before or after it is lowered. -/
theorem words_lower (text : List Char) : words (lower text) = (words text).map lower := by
  obtain ⟨first, others, pieces⟩ :=
    List.exists_cons_of_ne_nil (List.splitOnP_ne_nil isBlank text)
  have lowered : (lower text).splitOnP isBlank = (text.splitOnP isBlank).map lower := by
    rw [lower, splitOnP_lowerOnto false pieces, pieces]
    rfl
  have empty : (fun word : List Char => !word.isEmpty) ∘ lower = fun word => !word.isEmpty := by
    funext word
    cases word with
    | nil => rfl
    | cons c rest => simp [lower_cons_ne_nil]
  rw [words, lowered, List.filter_map, empty, words]

theorem normal_eq_spaced (text : List Char) : normal text = spaced (lower text) := by
  rw [normal, spaced, words_lower]

end Words

section Place

/-- The lower case of a text before which there may be a cased letter, with what follows it. -/
def lowerIn (casedBefore : Bool) (after : List Char) : List Char → List Char
  | [] => []
  | c :: rest =>
      lowerAt casedBefore c (rest ++ after) ++ lowerIn (casedAfter casedBefore c) after rest

/-- Whether the letter before the end of the text is cased, if it is in the same word. -/
def casedBehind (before : List Char) : Bool := before.foldl casedAfter false

theorem casedBehind_append_singleton (before : List Char) (c : Char) :
    casedBehind (before ++ [c]) = casedAfter (casedBehind before) c := by
  rw [casedBehind, List.foldl_append]
  rfl

theorem lowerOnto_append (casedBefore : Bool) (text after : List Char) :
    lowerOnto casedBefore [] (text ++ after) =
      lowerIn casedBefore after text ++ lowerOnto (text.foldl casedAfter casedBefore) [] after := by
  induction text generalizing casedBefore with
  | nil => rfl
  | cons c rest ih =>
      rw [List.cons_append, lowerOnto, lowerOnto_eq_append, ih, lowerIn]
      simp

theorem lowerIn_nil (casedBefore : Bool) (text : List Char) :
    lowerIn casedBefore [] text = lowerOnto casedBefore [] text := by
  have whole := lowerOnto_append casedBefore text []
  rw [List.append_nil] at whole
  rw [whole, lowerOnto, List.reverse_nil, List.append_nil]

theorem lowerIn_append (casedBefore : Bool) (after left right : List Char) :
    lowerIn casedBefore after (left ++ right) =
      lowerIn casedBefore (right ++ after) left ++
        lowerIn (left.foldl casedAfter casedBefore) after right := by
  induction left generalizing casedBefore with
  | nil => rfl
  | cons c rest ih =>
      rw [List.cons_append, lowerIn, ih, lowerIn, List.append_assoc, List.append_assoc]
      rfl

theorem lower_eq_lowerIn (text : List Char) : lower text = lowerIn (casedBehind []) [] text :=
  (lowerIn_nil false text).symm

theorem lower_eq_append (before text after : List Char) : ∃ left right,
    lower (before ++ text ++ after) =
      left ++ lowerIn (casedBehind before) after text ++ right := by
  rw [lower, lowerOnto_append, lowerIn_append]
  exact ⟨_, _, rfl⟩

end Place

section Final

def isFinal (before after : List Char) : Bool := casedBehind before && !casedAhead after

/-- Each capital sigma of the text is final in its place just if it is by itself. -/
def SigmasKept (before text after : List Char) : Prop :=
  ∀ left right, text = left ++ 'Σ' :: right →
    isFinal (before ++ left) (right ++ after) = isFinal left right

theorem lowerAt_eq_isFinal (before : List Char) (c : Char) (rest : List Char) :
    lowerAt (casedBehind before) c rest =
      if c = 'Σ' then (if isFinal before rest then ['ς'] else ['σ']) else lowerChar c :=
  rfl

theorem lowerIn_of_sigmasKept {before text after : List Char}
    (kept : SigmasKept before text after) :
    lowerIn (casedBehind before) after text = lower text := by
  -- what is lowered already stands in front, since it decides about what comes
  suffices general : ∀ done rest, text = done ++ rest →
      lowerIn (casedBehind (before ++ done)) after rest = lowerIn (casedBehind done) [] rest by
    rw [lower_eq_lowerIn]
    simpa using general [] text rfl
  intro done rest split
  induction rest generalizing done with
  | nil => rfl
  | cons c rest ih =>
      have first : lowerAt (casedBehind (before ++ done)) c (rest ++ after) =
          lowerAt (casedBehind done) c (rest ++ []) := by
        rw [lowerAt_eq_isFinal, lowerAt_eq_isFinal, List.append_nil]
        by_cases sigma : c = 'Σ'
        · rw [kept done rest (sigma ▸ split)]
        · simp only [sigma, ↓reduceIte]
      rw [lowerIn, lowerIn, first, ← casedBehind_append_singleton, ← casedBehind_append_singleton,
        List.append_assoc, ih (done ++ [c]) (by simpa using split)]

end Final

section Steady

/-- The text begins with a capital sigma that is not final by itself, but would be after a letter. -/
def opensOnSigma : List Char → Bool
  | [] => false
  | c :: rest =>
      if caseIgnorable.contains c then opensOnSigma rest else c == 'Σ' && !casedAhead rest

/-- The text ends in a capital sigma that is final by itself, but would not be before a letter. -/
def closesOnSigma (casedBefore : Bool) : List Char → Bool
  | [] => false
  | c :: rest =>
      (c == 'Σ' && casedBefore && rest.all caseIgnorable.contains) ||
        closesOnSigma (casedAfter casedBefore c) rest

/-- A text whose lower case is the same wherever it stands. -/
def Steady (text : List Char) : Prop :=
  opensOnSigma text = false ∧ closesOnSigma false text = false

instance (text : List Char) : Decidable (Steady text) :=
  inferInstanceAs (Decidable (_ ∧ _))

def AllIgnored (text : List Char) : Prop := ∀ c ∈ text, caseIgnorable.contains c = true

theorem not_ignored_sigma : caseIgnorable.contains 'Σ' = false := by decide +kernel

theorem opensOnSigma_iff (text : List Char) :
    opensOnSigma text = true ↔ ∃ left right, text = left ++ 'Σ' :: right ∧ AllIgnored left ∧
      casedAhead right = false := by
  induction text with
  | nil => simp [opensOnSigma]
  | cons c rest ih =>
      rw [opensOnSigma]
      by_cases ignored : caseIgnorable.contains c = true
      · rw [if_pos ignored, ih]
        constructor
        · rintro ⟨left, right, rfl, before, ahead⟩
          exact ⟨c :: left, right, rfl, List.forall_mem_cons.mpr ⟨ignored, before⟩, ahead⟩
        · rintro ⟨left, right, split, before, ahead⟩
          cases left with
          | nil =>
              rw [List.nil_append, List.cons.injEq] at split
              rw [split.1, not_ignored_sigma] at ignored
              contradiction
          | cons first left =>
              rw [List.cons_append, List.cons.injEq] at split
              exact ⟨left, right, split.2, (List.forall_mem_cons.mp before).2, ahead⟩
      · rw [if_neg ignored, Bool.and_eq_true, beq_iff_eq, Bool.not_eq_true']
        constructor
        · rintro ⟨rfl, ahead⟩
          exact ⟨[], rest, rfl, fun _ absent => absurd absent List.not_mem_nil, ahead⟩
        · rintro ⟨left, right, split, before, ahead⟩
          cases left with
          | nil =>
              rw [List.nil_append, List.cons.injEq] at split
              exact ⟨split.1, split.2 ▸ ahead⟩
          | cons first left =>
              rw [List.cons_append, List.cons.injEq] at split
              exact absurd (split.1 ▸ (List.forall_mem_cons.mp before).1) ignored

theorem closesOnSigma_iff (casedBefore : Bool) (text : List Char) :
    closesOnSigma casedBefore text = true ↔ ∃ left right, text = left ++ 'Σ' :: right ∧
      AllIgnored right ∧ left.foldl casedAfter casedBefore = true := by
  induction text generalizing casedBefore with
  | nil => simp [closesOnSigma]
  | cons c rest ih =>
      rw [closesOnSigma, Bool.or_eq_true, ih, Bool.and_eq_true, Bool.and_eq_true, beq_iff_eq,
        List.all_eq_true]
      constructor
      · rintro (⟨⟨rfl, behind⟩, after⟩ | ⟨left, right, rfl, after, behind⟩)
        · exact ⟨[], rest, rfl, after, behind⟩
        · exact ⟨c :: left, right, rfl, after, behind⟩
      · rintro ⟨left, right, split, after, behind⟩
        cases left with
        | nil =>
            rw [List.nil_append, List.cons.injEq] at split
            obtain ⟨rfl, rfl⟩ := split
            exact Or.inl ⟨⟨rfl, behind⟩, after⟩
        | cons first left =>
            rw [List.cons_append, List.cons.injEq] at split
            obtain ⟨rfl, rfl⟩ := split
            exact Or.inr ⟨left, right, rfl, after, behind⟩

theorem steady_of_not_mem {text : List Char} (absent : 'Σ' ∉ text) : Steady text := by
  constructor
  · rw [← Bool.not_eq_true, opensOnSigma_iff]
    rintro ⟨left, right, rfl, _, _⟩
    exact absent (by simp)
  · rw [← Bool.not_eq_true, closesOnSigma_iff]
    rintro ⟨left, right, rfl, _, _⟩
    exact absent (by simp)

theorem foldl_casedAfter_of_ignored {text : List Char} (ignored : AllIgnored text)
    (casedBefore : Bool) : text.foldl casedAfter casedBefore = casedBefore := by
  induction text with
  | nil => rfl
  | cons c rest ih =>
      obtain ⟨first, others⟩ := List.forall_mem_cons.mp ignored
      rw [List.foldl_cons, casedAfter, if_pos first, ih others]

theorem foldl_casedAfter_of_regarded {text : List Char} (regarded : ¬ AllIgnored text)
    (left right : Bool) : text.foldl casedAfter left = text.foldl casedAfter right := by
  induction text generalizing left right with
  | nil => exact absurd (fun _ absent => absurd absent List.not_mem_nil) regarded
  | cons c rest ih =>
      rw [List.foldl_cons, List.foldl_cons]
      by_cases ignored : caseIgnorable.contains c = true
      · have later : ¬ AllIgnored rest := fun others =>
          regarded (List.forall_mem_cons.mpr ⟨ignored, others⟩)
        exact ih later _ _
      · rw [casedAfter, casedAfter, if_neg ignored, if_neg ignored]

theorem casedAhead_of_ignored {text : List Char} (ignored : AllIgnored text)
    (after : List Char) : casedAhead (text ++ after) = casedAhead after := by
  induction text with
  | nil => rfl
  | cons c rest ih =>
      obtain ⟨first, others⟩ := List.forall_mem_cons.mp ignored
      rw [List.cons_append, casedAhead, if_pos first, ih others]

theorem casedAhead_of_regarded {text : List Char} (regarded : ¬ AllIgnored text)
    (after : List Char) : casedAhead (text ++ after) = casedAhead text := by
  induction text with
  | nil => exact absurd (fun _ absent => absurd absent List.not_mem_nil) regarded
  | cons c rest ih =>
      rw [List.cons_append, casedAhead, casedAhead]
      by_cases ignored : caseIgnorable.contains c = true
      · have later : ¬ AllIgnored rest := fun others =>
          regarded (List.forall_mem_cons.mpr ⟨ignored, others⟩)
        rw [if_pos ignored, if_pos ignored, ih later]
      · rw [if_neg ignored, if_neg ignored]

theorem casedBehind_of_regarded {text : List Char} (regarded : ¬ AllIgnored text)
    (before : List Char) : casedBehind (before ++ text) = casedBehind text := by
  rw [casedBehind, List.foldl_append]
  exact foldl_casedAfter_of_regarded regarded _ _

theorem sigmasKept_of_alone {before after : List Char} (behind : casedBehind before = false)
    (ahead : casedAhead after = false) (text : List Char) : SigmasKept before text after := by
  intro left right _
  have sameBehind : casedBehind (before ++ left) = casedBehind left := by
    rw [casedBehind, List.foldl_append, ← casedBehind, behind, casedBehind]
  have sameAhead : casedAhead (right ++ after) = casedAhead right := by
    by_cases trailing : AllIgnored right
    · have nothing := casedAhead_of_ignored trailing []
      rw [List.append_nil] at nothing
      rw [casedAhead_of_ignored trailing, ahead, nothing, casedAhead]
    · exact casedAhead_of_regarded trailing after
  rw [isFinal, isFinal, sameBehind, sameAhead]

theorem Steady.sigmasKept {text : List Char} (steady : Steady text) (before after : List Char) :
    SigmasKept before text after := by
  intro left right split
  obtain ⟨opens, closes⟩ := steady
  rw [← Bool.not_eq_true, opensOnSigma_iff] at opens
  rw [← Bool.not_eq_true, closesOnSigma_iff] at closes
  rw [isFinal, isFinal]
  by_cases leading : AllIgnored left
  · -- nothing in the text decides what is before the sigma, so a letter is ahead
    have ahead : casedAhead right = true := by
      rw [← Bool.not_eq_false]
      exact fun none => opens ⟨left, right, split, leading, none⟩
    have regarded : ¬ AllIgnored right := by
      intro trailing
      have nothing := casedAhead_of_ignored trailing []
      rw [List.append_nil, ahead, casedAhead] at nothing
      contradiction
    rw [casedAhead_of_regarded regarded, ahead, Bool.not_true, Bool.and_false, Bool.and_false]
  · rw [casedBehind_of_regarded leading]
    by_cases trailing : AllIgnored right
    · have behind : casedBehind left = false := by
        rw [← Bool.not_eq_true]
        exact fun before => closes ⟨left, right, split, trailing, before⟩
      rw [behind, Bool.false_and, Bool.false_and]
    · rw [casedAhead_of_regarded trailing]

end Steady

section Unsteady

theorem lowerAt_of_ignored {c : Char} (ignored : caseIgnorable.contains c = true)
    (casedBefore : Bool) (rest : List Char) : lowerAt casedBefore c rest = lowerChar c := by
  have other : c ≠ 'Σ' := by
    rintro rfl
    rw [not_ignored_sigma] at ignored
    contradiction
  rw [lowerAt, if_neg other]

theorem lowerIn_of_ignored {text : List Char} (ignored : AllIgnored text) (casedBefore : Bool)
    (after : List Char) : lowerIn casedBefore after text = text.flatMap lowerChar := by
  induction text generalizing casedBefore with
  | nil => rfl
  | cons c rest ih =>
      obtain ⟨first, others⟩ := List.forall_mem_cons.mp ignored
      rw [lowerIn, lowerAt_of_ignored first, ih others, List.flatMap_cons]

theorem lowerIn_before_sigma (casedBefore : Bool) (text after : List Char) :
    lowerIn casedBefore ('Σ' :: after) text = lowerIn casedBefore ['Σ'] text := by
  induction text generalizing casedBefore with
  | nil => rfl
  | cons c rest ih =>
      have regarded : ¬ AllIgnored (rest ++ ['Σ']) := by
        intro ignored
        have sigma := ignored 'Σ' (List.mem_append_right rest (List.mem_singleton_self 'Σ'))
        rw [not_ignored_sigma] at sigma
        contradiction
      have ahead := casedAhead_of_regarded regarded after
      rw [List.append_assoc, List.singleton_append] at ahead
      rw [lowerIn, lowerIn, ih, lowerAt, lowerAt, ahead]

theorem casedAfter_sigma (casedBefore : Bool) : casedAfter casedBefore 'Σ' = true := by
  cases casedBefore <;> decide +kernel

theorem lowerIn_around_sigma (casedBefore : Bool) (left right after : List Char) :
    lowerIn casedBefore after (left ++ 'Σ' :: right) = lowerIn casedBefore ['Σ'] left ++
      (if left.foldl casedAfter casedBefore && !casedAhead (right ++ after) then 'ς' else 'σ') ::
        lowerIn true after right := by
  rw [lowerIn_append, List.cons_append, lowerIn_before_sigma, lowerIn, casedAfter_sigma, lowerAt,
    if_pos rfl]
  split <;> rfl

theorem lower_after_letter (text : List Char) : lower ('a' :: text) = 'a' :: lowerIn true [] text := by
  have cased : casedAfter false 'a' = true := by decide +kernel
  have small : lowerAt false 'a' (text ++ []) = ['a'] := rfl
  rw [lower_eq_lowerIn, lowerIn, casedBehind, List.foldl_nil, cased, small, List.singleton_append]

theorem lower_before_letter (text : List Char) :
    lower (text ++ ['a']) = lowerIn false ['a'] text ++ ['a'] := by
  rw [lower_eq_lowerIn, lowerIn_append, List.append_nil]
  rfl

theorem not_infix_normal {text other : List Char} {letter : Char}
    (visible : isBlank letter = false) (fewer : (lower other).count letter < (lower text).count letter) :
    ¬ normal text <:+: normal other := by
  intro inside
  have counted := inside.sublist.count_le letter
  rw [normal_eq_spaced, normal_eq_spaced, count_spaced visible, count_spaced visible] at counted
  omega

theorem not_infix_of_opensOnSigma {text : List Char} (opens : opensOnSigma text = true) :
    ¬ normal text <:+: normal ('a' :: text) := by
  obtain ⟨left, right, rfl, ignored, ahead⟩ := (opensOnSigma_iff text).mp opens
  have visible : isBlank 'σ' = false := by decide
  apply not_infix_normal visible
  rw [lower_after_letter, lower_eq_lowerIn, lowerIn_around_sigma, lowerIn_around_sigma,
    List.append_nil, ahead, foldl_casedAfter_of_ignored ignored,
    foldl_casedAfter_of_ignored ignored, lowerIn_of_ignored ignored, lowerIn_of_ignored ignored]
  simp [casedBehind]

theorem not_infix_of_closesOnSigma {text : List Char} (closes : closesOnSigma false text = true) :
    ¬ normal text <:+: normal (text ++ ['a']) := by
  obtain ⟨left, right, rfl, ignored, behind⟩ := (closesOnSigma_iff false text).mp closes
  have visible : isBlank 'ς' = false := by decide
  have ahead : casedAhead ['a'] = true := by decide +kernel
  apply not_infix_normal visible
  rw [lower_before_letter, lower_eq_lowerIn, lowerIn_around_sigma, lowerIn_around_sigma,
    casedAhead_of_ignored ignored, casedAhead_of_ignored ignored, lowerIn_of_ignored ignored,
    lowerIn_of_ignored ignored, ahead, casedBehind, List.foldl_nil, behind]
  simp [casedAhead]

/-- A text that is not steady is lost in the normal form of some text around it. -/
theorem exists_not_infix_of_not_steady {text : List Char} (unsteady : ¬ Steady text) :
    ∃ before after, ¬ normal text <:+: normal (before ++ text ++ after) := by
  rw [Steady, Classical.not_and_iff_not_or_not, Bool.not_eq_false, Bool.not_eq_false] at unsteady
  rcases unsteady with opens | closes
  · exact ⟨['a'], [], by simpa using not_infix_of_opensOnSigma opens⟩
  · exact ⟨[], ['a'], by simpa using not_infix_of_closesOnSigma closes⟩

end Unsteady

theorem normal_infix_of_sigmasKept {before text after : List Char}
    (kept : SigmasKept before text after) : normal text <:+: normal (before ++ text ++ after) := by
  obtain ⟨left, right, whole⟩ := lower_eq_append before text after
  rw [normal_eq_spaced, normal_eq_spaced, whole, lowerIn_of_sigmasKept kept]
  exact spaced_inside left (lower text) right

end Compliance.Text
