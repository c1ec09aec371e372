import Compliance.Evidence
import Compliance.Proofs.Text.Layout
import Compliance.Proofs.Text.WholeText

/-!
The form that normal forms have: every character is its own lower case, one space parts two words,
and no blank stands at either end. A text of this form is its own normal form, so it does not matter
whether a phrase is put into normal form before it is searched for.
-/

namespace Compliance.Text

section Small

/-- The character is its own lower case. -/
def Small (c : Char) : Prop := lowerChar c = [c]

instance : DecidablePred Small := fun c => inferInstanceAs (Decidable (lowerChar c = [c]))

/-- What a run leads to is met by no run, told from where the runs begin and end; between the two
letters of a pair, by which of the two a run in steps of two begins with. -/
def CaseRun.settles (run : CaseRun) : List CaseRun → Bool
  | [] => true
  | other :: rest =>
      run.target + (run.last - run.first) < other.first ||
        ((other.last < run.target || (other.step == 2 &&
            (run.step == 2 || run.first == run.last) && (run.target + other.first) % 2 == 1)) &&
          run.settles rest)

theorem CaseRun.lowerPoint_of_settles {run : CaseRun} {point : Nat} (met : run.holds point = true)
    {runs : List CaseRun} (settled : run.settles runs = true) :
    lowerPoint (run.lower point) runs = run.lower point := by
  obtain ⟨above, below, inStep⟩ := range_of_holds met
  induction runs with
  | nil => rfl
  | cons other rest ih =>
      simp only [settles, Bool.or_eq_true, Bool.and_eq_true, decide_eq_true_eq, beq_iff_eq]
        at settled
      rw [lowerPoint]
      rcases settled with before | ⟨past, later⟩
      · rw [if_pos (by rw [lower]; omega)]
      · have unmet : ¬ other.holds (run.lower point) = true := by
          intro led
          obtain ⟨first, last, odd⟩ := range_of_holds led
          rw [lower] at first last odd
          rcases past with after | ⟨⟨twos, pairs⟩, parity⟩
          · omega
          · rw [twos] at odd
            rcases pairs with two | single
            · rw [two] at inStep
              omega
            · omega
        rw [if_neg unmet, ih later, ite_self]

theorem settled_runs : ∀ run ∈ caseRuns, run.settles caseRuns = true ∧ 0x5A < run.target ∧
    ¬ run.leadsTo 0x130 := by
  have tried : caseRuns.all (fun run => run.settles caseRuns && decide (0x5A < run.target) &&
      !decide (run.leadsTo 0x130)) = true := by
    decide +kernel
  intro run listed
  have each := List.all_eq_true.mp tried run listed
  simp only [Bool.and_eq_true, Bool.not_eq_true', decide_eq_true_eq,
    decide_eq_false_iff_not] at each
  exact ⟨each.1.1, each.1.2, each.2⟩

theorem small_toLower (c : Char) (ascii : c.toNat < 0x80) : Small c.toLower := by
  have tried : letters.all (fun letter => decide (Small letter.toLower)) = true := by
    decide +kernel
  rcases toLower_cases c with same | ⟨letter, _⟩
  · rw [same, Small, lowerChar, if_pos ascii, same]
  · simpa using List.all_eq_true.mp tried c (mem_letters letter)

theorem small_of_stays {c : Char} (other : 0x5A < c.toNat) (undotted : c ≠ '\u0130')
    (stays : lowerPoint c.toNat caseRuns = c.toNat) : Small c := by
  have small : ¬ (c.val ≥ 'A'.val ∧ c.val ≤ 'Z'.val) := by
    rintro ⟨_, capital⟩
    have position : c.toNat ≤ 0x5A := UInt32.le_iff_toNat_le.mp capital
    omega
  have unchanged : c.toLower = c := dif_neg small
  rw [Small, lowerChar, unchanged, if_neg undotted, stays, Char.ofNat_toNat, ite_self]

theorem small_of_run {run : CaseRun} (listed : run ∈ caseRuns) {point : Nat}
    (met : run.holds point = true) : Small (Char.ofNat (run.lower point)) := by
  obtain ⟨settled, capitals, dotted⟩ := settled_runs run listed
  have led := CaseRun.leadsTo_lower met
  by_cases valid : (run.lower point).isValidChar
  · have position : (Char.ofNat (run.lower point)).toNat = run.lower point := by
      rw [Char.ofNat, dif_pos valid]
      rfl
    refine small_of_stays ?_ ?_ ?_
    · rw [position]
      exact Nat.lt_of_lt_of_le capitals led.1
    · intro same
      rw [← position, same] at led
      exact dotted led
    · rw [position, CaseRun.lowerPoint_of_settles met settled]
  · have filler : Char.ofNat (run.lower point) = '\x00' := by
      rw [Char.ofNat, dif_neg valid]
      rfl
    rw [filler]
    decide

theorem small_of_mem_lowerChar {c lowered : Char} (member : lowered ∈ lowerChar c) :
    Small lowered := by
  rw [lowerChar] at member
  split at member
  · rename_i ascii
    rw [List.mem_singleton.mp member]
    exact small_toLower c ascii
  · split at member
    · rcases List.mem_cons.mp member with rfl | dot
      · decide
      · rw [List.mem_singleton.mp dot]
        decide +kernel
    · rename_i high undotted
      rw [List.mem_singleton.mp member]
      rcases lowerPoint_cases c.toNat caseRuns with stays | ⟨run, listed, met, led⟩
      · rw [stays, Char.ofNat_toNat]
        exact small_of_stays (by omega) undotted stays
      · rw [led]
        exact small_of_run listed met

theorem small_of_mem_lowerAt {casedBefore : Bool} {c lowered : Char} {rest : List Char}
    (member : lowered ∈ lowerAt casedBefore c rest) : Small lowered := by
  rw [lowerAt] at member
  split at member
  · split at member
    · rw [List.mem_singleton.mp member]
      decide +kernel
    · rw [List.mem_singleton.mp member]
      decide +kernel
  · exact small_of_mem_lowerChar member

theorem small_of_mem_lowerOnto {casedBefore : Bool} {text : List Char} {lowered : Char}
    (member : lowered ∈ lowerOnto casedBefore [] text) : Small lowered := by
  induction text generalizing casedBefore with
  | nil => exact absurd member List.not_mem_nil
  | cons c rest ih =>
      rw [lowerOnto, lowerOnto_eq_append, List.append_nil, List.reverse_reverse,
        List.mem_append] at member
      rcases member with first | later
      · exact small_of_mem_lowerAt first
      · exact ih later

theorem Small.ne_sigma {c : Char} (small : Small c) : c ≠ 'Σ' := by
  rintro rfl
  exact absurd small (by decide +kernel)

theorem lowerOnto_of_small {text : List Char} (small : ∀ c ∈ text, Small c)
    (casedBefore : Bool) : lowerOnto casedBefore [] text = text := by
  induction text generalizing casedBefore with
  | nil => rfl
  | cons c rest ih =>
      obtain ⟨first, others⟩ := List.forall_mem_cons.mp small
      rw [lowerOnto, lowerOnto_eq_append, List.append_nil, List.reverse_reverse, ih others,
        lowerAt, if_neg first.ne_sigma, first]
      rfl

end Small

section Form

/-- A text in lower case in which blanks stand only between letters, one space at a time. -/
structure Canonical (text : List Char) : Prop where
  small : ∀ c ∈ text, Small c
  flush : Flush text
  spaces : ∀ c ∈ text, isBlank c = true → c = ' '
  apart : ¬ [' ', ' '] <:+: text

theorem mem_collapsed {text : List Char} {c : Char} (member : c ∈ collapsed text) :
    c = ' ' ∨ c ∈ text ∧ isBlank c = false := by
  induction text with
  | nil => exact absurd member List.not_mem_nil
  | cons first rest ih =>
      have later (found : c ∈ collapsed rest) :
          c = ' ' ∨ c ∈ first :: rest ∧ isBlank c = false :=
        (ih found).imp_right fun inside => ⟨List.mem_cons_of_mem first inside.1, inside.2⟩
      cases blank : isBlank first with
      | false =>
          rw [collapsed_cons_letter blank, List.mem_cons] at member
          rcases member with rfl | found
          · exact .inr ⟨List.mem_cons_self, blank⟩
          · exact later found
      | true =>
          rw [collapsed_cons_blank blank] at member
          split at member
          · exact later member
          · rcases List.mem_cons.mp member with space | found
            · exact .inl space
            · exact later found

theorem apart_collapsed (text : List Char) : ¬ [' ', ' '] <:+: collapsed text := by
  induction text with
  | nil => simp [collapsed]
  | cons c rest ih =>
      cases blank : isBlank c with
      | false =>
          rw [collapsed_cons_letter blank, List.infix_cons_iff, not_or]
          refine ⟨?_, ih⟩
          rw [List.cons_prefix_cons]
          rintro ⟨rfl, _⟩
          exact absurd blank (by decide)
      | true =>
          rw [collapsed_cons_blank blank]
          split
          · exact ih
          · rename_i parted
            rw [List.infix_cons_iff, not_or]
            refine ⟨?_, ih⟩
            rw [List.cons_prefix_cons]
            rintro ⟨_, spaced⟩
            cases rest with
            | nil => simp [collapsed] at spaced
            | cons next later =>
                have letter : isBlank next = false := by simpa using parted
                rw [collapsed_cons_letter letter, List.cons_prefix_cons] at spaced
                obtain ⟨rfl, _⟩ := spaced
                exact absurd letter (by decide)

theorem trimmed_inside (text : List Char) : trimmed text <:+: text := by
  have start : dropBlanksEnd (dropBlanks text) <+: dropBlanks text := by
    rw [dropBlanksEnd_eq, ← List.reverse_suffix, List.reverse_reverse]
    exact List.dropWhile_suffix isBlank
  have ends : dropBlanks text <:+ text := List.dropWhile_suffix isBlank
  exact start.isInfix.trans ends.isInfix

theorem canonical_normal (text : List Char) : Canonical (normal text) := by
  rw [normal_eq_spaced, ← trimmed_collapsed]
  constructor
  case small =>
    intro c member
    rcases mem_collapsed (mem_of_mem_trimmed member) with rfl | ⟨lowered, _⟩
    · decide
    · exact small_of_mem_lowerOnto lowered
  case flush => exact flush_trimmed _
  case spaces =>
    intro c member blank
    rcases mem_collapsed (mem_of_mem_trimmed member) with space | ⟨_, letter⟩
    · exact space
    · rw [blank] at letter
      contradiction
  case apart => exact fun doubled => apart_collapsed _ (doubled.trans (trimmed_inside _))

theorem collapsed_eq_self {text : List Char} (spaces : ∀ c ∈ text, isBlank c = true → c = ' ')
    (apart : ¬ [' ', ' '] <:+: text) : collapsed text = text := by
  induction text with
  | nil => rfl
  | cons c rest ih =>
      obtain ⟨first, others⟩ := List.forall_mem_cons.mp spaces
      have unchanged : collapsed rest = rest :=
        ih others fun doubled => apart (List.infix_cons doubled)
      cases blank : isBlank c with
      | false => rw [collapsed_cons_letter blank, unchanged]
      | true =>
          have single : rest.head?.any isBlank = false := by
            cases rest with
            | nil => rfl
            | cons next later =>
                cases follows : isBlank next with
                | false => simpa using follows
                | true =>
                    rw [first blank, others next List.mem_cons_self follows] at apart
                    exact absurd ⟨[], later, rfl⟩ apart
          rw [collapsed_cons_blank blank, single, unchanged, first blank]
          rfl

theorem Canonical.normal_eq {text : List Char} (canonical : Canonical text) :
    normal text = text := by
  rw [normal_eq_spaced, lower, lowerOnto_of_small canonical.small, ← trimmed_collapsed,
    collapsed_eq_self canonical.spaces canonical.apart, canonical.flush.trimmed_eq]

end Form

end Compliance.Text

namespace Compliance

theorem normalForm_normalForm (text : String) : normalForm (normalForm text) = normalForm text := by
  rw [normalForm, toList_normalForm, (Text.canonical_normal text.toList).normal_eq, ← normalForm]

theorem Evidence.find_normalForm (radius : Nat) (phrase : String) (sentences : List String) :
    find radius (normalForm phrase) sentences =
      (find radius phrase sentences).map fun evidence =>
        { evidence with phrase := normalForm phrase } := by
  rw [find, find, scan, scan, normalForm_normalForm]
  dsimp only
  split
  · rfl
  · rw [List.map_filterMap]
    refine List.filterMap_congr fun entry _ => ?_
    rw [at?, at?, Option.map_map]
    rfl

/-- The normal form of a text is one: it is its own normal form, with single spaces between its
words and none around them. It finds what the text finds. -/
theorem normalForm_canonical (text : String) :
    normalForm (normalForm text) = normalForm text ∧
      Text.Canonical (normalForm text).toList ∧
      (normalForm text = "" ↔ isBlankText text = true) ∧
      ∀ (radius : Nat) (sentences : List String),
        Evidence.find radius (normalForm text) sentences =
          (Evidence.find radius text sentences).map fun evidence =>
            { evidence with phrase := normalForm text } := by
  refine ⟨normalForm_normalForm text, ?_, normalForm_eq_empty_iff text, ?_⟩
  · rw [toList_normalForm]
    exact Text.canonical_normal text.toList
  · intro radius sentences
    exact Evidence.find_normalForm radius text sentences

example : normalForm "\tΑΣ\u00a0\u0130 " = "ας i\u0307" ∧
    normalForm "ας i\u0307" = "ας i\u0307" := by
  decide +kernel

end Compliance
