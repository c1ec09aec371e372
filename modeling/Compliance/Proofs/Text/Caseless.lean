import Compliance.Proofs.Text.Normal

/-!
Characters that lower case neither makes nor removes, such as blanks and the marks that end
sentences. A text in lower case holds them exactly where the text does.
-/

namespace Compliance.Text

def CaseRun.leadsTo (run : CaseRun) (point : Nat) : Prop :=
  run.target ≤ point ∧ point ≤ run.target + (run.last - run.first)

instance (run : CaseRun) (point : Nat) : Decidable (run.leadsTo point) :=
  inferInstanceAs (Decidable (_ ∧ _))

/-- The character is its own lower case, and that of no other one. -/
structure Caseless (c : Char) : Prop where
  unchanged : lowerChar c = [c]
  apart : ∀ run ∈ caseRuns, ¬ run.leadsTo c.toNat
  plain : c.isLower = false
  special : c ∉ ['\x00', 'Σ', 'σ', 'ς', '\u0307']

theorem caseless_iff (c : Char) : Caseless c ↔ lowerChar c = [c] ∧
    (∀ run ∈ caseRuns, ¬ run.leadsTo c.toNat) ∧ c.isLower = false ∧
      c ∉ ['\x00', 'Σ', 'σ', 'ς', '\u0307'] :=
  ⟨fun ⟨unchanged, apart, plain, special⟩ => ⟨unchanged, apart, plain, special⟩,
    fun ⟨unchanged, apart, plain, special⟩ => ⟨unchanged, apart, plain, special⟩⟩

instance : DecidablePred Caseless := fun c => decidable_of_iff _ (caseless_iff c).symm

theorem CaseRun.range_of_holds {run : CaseRun} {point : Nat} (met : run.holds point = true) :
    run.first ≤ point ∧ point ≤ run.last ∧ (point - run.first) % run.step = 0 := by
  simp only [CaseRun.holds, Bool.and_eq_true, decide_eq_true_eq, beq_iff_eq] at met
  exact ⟨met.1.1, met.1.2, met.2⟩

theorem CaseRun.leadsTo_lower {run : CaseRun} {point : Nat} (met : run.holds point = true) :
    run.leadsTo (run.lower point) := by
  have range := range_of_holds met
  simp only [leadsTo, lower]
  omega

theorem lowerPoint_cases (point : Nat) (runs : List CaseRun) :
    lowerPoint point runs = point ∨
      ∃ run ∈ runs, run.holds point = true ∧ lowerPoint point runs = run.lower point := by
  induction runs with
  | nil => exact Or.inl rfl
  | cons run rest ih =>
      rw [lowerPoint]
      split
      · exact Or.inl rfl
      · split
        · rename_i met
          exact Or.inr ⟨run, List.mem_cons_self, met, rfl⟩
        · rcases ih with same | ⟨other, listed, met, led⟩
          · exact Or.inl same
          · exact Or.inr ⟨other, List.mem_cons_of_mem run listed, met, led⟩

namespace Caseless

variable {fixed : Char} (caseless : Caseless fixed)
include caseless

theorem eq_of_eq_toLower {c : Char} (same : fixed = c.toLower) : fixed = c := by
  by_cases capital : c.val ≥ 'A'.val ∧ c.val ≤ 'Z'.val
  · have small : c.toLower.val = c.val + ('a'.val - 'A'.val) :=
      congrArg Char.val (dif_pos capital)
    have plain : (fixed.val ≥ 'a'.val && fixed.val ≤ 'z'.val) = false := caseless.plain
    simp only [same, small, Bool.and_eq_false_iff, decide_eq_false_iff_not] at plain
    grind
  · have unchanged : c.toLower = c := dif_neg capital
    rw [same, unchanged]

theorem eq_of_eq_ofNat {c : Char} (same : fixed = Char.ofNat (lowerPoint c.toNat caseRuns)) :
    fixed = c := by
  by_cases valid : (lowerPoint c.toNat caseRuns).isValidChar
  · have position : fixed.toNat = lowerPoint c.toNat caseRuns := by
      rw [same, Char.ofNat, dif_pos valid]
      rfl
    rcases lowerPoint_cases c.toNat caseRuns with stays | ⟨run, listed, met, led⟩
    · rw [same, stays, Char.ofNat_toNat]
    · have reached : run.leadsTo fixed.toNat := by
        rw [position, led]
        exact CaseRun.leadsTo_lower met
      exact absurd reached (caseless.apart run listed)
  · have filler : fixed = '\x00' := by
      rw [same, Char.ofNat, dif_neg valid]
      rfl
    exact absurd (by simp [filler]) caseless.special

theorem mem_lowerChar_iff (c : Char) : fixed ∈ lowerChar c ↔ fixed = c := by
  constructor
  · intro member
    rw [lowerChar] at member
    split at member
    · exact caseless.eq_of_eq_toLower (List.mem_singleton.mp member)
    · split at member
      · -- the two characters of a dotted capital I
        rcases List.mem_cons.mp member with rfl | dot
        · exact absurd caseless.plain (by decide)
        · exact absurd (by simp [List.mem_singleton.mp dot]) caseless.special
      · exact caseless.eq_of_eq_ofNat (List.mem_singleton.mp member)
  · rintro rfl
    rw [caseless.unchanged]
    exact List.mem_singleton_self fixed

theorem mem_lowerAt_iff (casedBefore : Bool) (c : Char) (rest : List Char) :
    fixed ∈ lowerAt casedBefore c rest ↔ fixed = c := by
  rw [lowerAt]
  split
  · rename_i sigma
    have special := caseless.special
    simp only [List.mem_cons, not_or] at special
    split <;> simp [sigma, special]
  · exact caseless.mem_lowerChar_iff c

theorem mem_lowerOnto_iff (casedBefore : Bool) (text : List Char) :
    fixed ∈ lowerOnto casedBefore [] text ↔ fixed ∈ text := by
  induction text generalizing casedBefore with
  | nil => simp [lowerOnto]
  | cons c rest ih =>
      rw [lowerOnto, lowerOnto_eq_append, List.mem_append, ih, List.mem_cons]
      simp [caseless.mem_lowerAt_iff]

theorem mem_lower_iff (text : List Char) : fixed ∈ lower text ↔ fixed ∈ text :=
  caseless.mem_lowerOnto_iff false text

theorem lowerAt_eq (casedBefore : Bool) (rest : List Char) :
    lowerAt casedBefore fixed rest = [fixed] := by
  have special := caseless.special
  simp only [List.mem_cons, not_or] at special
  rw [lowerAt, if_neg special.2.1, caseless.unchanged]

end Caseless

section Blanks

def blanks : List Char :=
  ([0x20, 0x9, 0xA, 0xB, 0xC, 0xD, 0x85, 0xA0, 0x1680, 0x2000, 0x2001, 0x2002, 0x2003, 0x2004,
    0x2005, 0x2006, 0x2007, 0x2008, 0x2009, 0x200A, 0x2028, 0x2029, 0x202F, 0x205F,
    0x3000] : List Nat).map Char.ofNat

theorem mem_blanks {c : Char} (blank : isBlank c = true) : c ∈ blanks := by
  rw [← Char.ofNat_toNat c]
  apply List.mem_map_of_mem
  simp only [isBlank, Bool.or_eq_true, Bool.and_eq_true, decide_eq_true_eq, beq_iff_eq] at blank
  simp only [List.mem_cons, List.not_mem_nil, or_false]
  omega

-- decided for the list, since the statement itself may be decided by going through all characters
theorem caseless_of_mem_blanks : ∀ c ∈ blanks, Caseless c := by
  have tried : blanks.all (fun c => decide (Caseless c)) = true := by decide +kernel
  simpa using tried

theorem ignored_of_mem_blanks :
    ∀ c ∈ blanks, caseIgnorable.contains c = false ∧ cased.contains c = false := by
  have tried : blanks.all (fun c => !caseIgnorable.contains c && !cased.contains c) = true := by
    decide +kernel
  simpa using tried

variable {c : Char} (blank : isBlank c = true)
include blank

theorem caseless_of_blank : Caseless c :=
  caseless_of_mem_blanks c (mem_blanks blank)

theorem casedAfter_blank (casedBefore : Bool) : casedAfter casedBefore c = false := by
  obtain ⟨regarded, uncased⟩ := ignored_of_mem_blanks c (mem_blanks blank)
  simp [casedAfter, regarded, uncased]

theorem casedAhead_blank (rest : List Char) : casedAhead (c :: rest) = false := by
  obtain ⟨regarded, uncased⟩ := ignored_of_mem_blanks c (mem_blanks blank)
  simp [casedAhead, regarded, uncased]

end Blanks

end Compliance.Text
