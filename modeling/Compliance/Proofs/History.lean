import Mathlib.Data.List.Pairwise
import Compliance.Proofs.History.Tally

/-!
What the log shows of its entries: all of them by time, with ties in the order in which they were
recorded, and statistics that count them for the whole and for each rule.
-/

namespace Compliance

open scoped List

namespace Timestamp

theorem isBefore_iff (left right : Timestamp) :
    left.isBefore right = true ↔ left.date.isBefore right.date = true ∨
      left.date = right.date ∧ (left.second < right.second ∨
        left.second = right.second ∧ left.nanos < right.nanos) := by
  simp [isBefore]

theorem isBefore_asymm {left right : Timestamp} (before : left.isBefore right = true) :
    right.isBefore left = false := by
  rw [Bool.eq_false_iff, ne_eq, isBefore_iff]
  rw [isBefore_iff] at before
  obtain ⟨⟨year, month, day⟩, second, nanos⟩ := left
  obtain ⟨⟨year', month', day'⟩, second', nanos'⟩ := right
  simp only [Date.isBefore, Date.mk.injEq, Bool.or_eq_true, Bool.and_eq_true, decide_eq_true_eq,
    beq_iff_eq] at before ⊢
  omega

theorem isBefore_or_isBefore {left right : Timestamp} (before : left.isBefore right = true)
    (other : Timestamp) : left.isBefore other = true ∨ other.isBefore right = true := by
  rw [isBefore_iff] at before
  rw [isBefore_iff, isBefore_iff]
  obtain ⟨⟨year, month, day⟩, second, nanos⟩ := left
  obtain ⟨⟨year', month', day'⟩, second', nanos'⟩ := right
  obtain ⟨⟨year'', month'', day''⟩, second'', nanos''⟩ := other
  simp only [Date.isBefore, Date.mk.injEq, Bool.or_eq_true, Bool.and_eq_true, decide_eq_true_eq,
    beq_iff_eq] at before ⊢
  omega

end Timestamp

namespace HistoryEntry

def noLater (left right : HistoryEntry) : Bool := !right.time.isBefore left.time

theorem noLater_total (left right : HistoryEntry) :
    (left.noLater right || right.noLater left) = true := by
  rw [noLater, noLater]
  cases before : right.time.isBefore left.time with
  | false => rfl
  | true =>
      rw [Timestamp.isBefore_asymm before]
      rfl

theorem noLater_trans (first second third : HistoryEntry) (early : first.noLater second = true)
    (late : second.noLater third = true) : first.noLater third = true := by
  rw [noLater, Bool.not_eq_true'] at *
  cases before : third.time.isBefore first.time with
  | false => rfl
  | true =>
      rcases Timestamp.isBefore_or_isBefore before second.time with wrong | wrong
      · exact wrong.symm.trans late
      · exact wrong.symm.trans early

end HistoryEntry

namespace History

variable (history : History)

theorem chronological_perm : history.chronological ~ history.entries :=
  List.mergeSort_perm history.entries _

theorem chronological_sorted :
    history.chronological.Pairwise fun earlier later =>
      later.time.isBefore earlier.time = false := by
  have sorted : history.chronological.Pairwise fun earlier later =>
      earlier.noLater later = true :=
    List.pairwise_mergeSort HistoryEntry.noLater_trans HistoryEntry.noLater_total history.entries
  exact sorted.imp fun ordered => by simpa [HistoryEntry.noLater] using ordered

theorem filter_chronological (time : Timestamp) :
    (history.chronological.filter fun entry => entry.time == time) =
      history.entries.filter fun entry => entry.time == time := by
  have tied : (history.entries.filter fun entry => entry.time == time).Pairwise
      fun earlier later => earlier.noLater later = true := by
    apply List.pairwise_of_forall_mem_list
    intro earlier first later second
    have same : later.time = earlier.time := by
      simp only [List.mem_filter, beq_iff_eq] at first second
      rw [first.2, second.2]
    have total := HistoryEntry.noLater_total earlier later
    rw [HistoryEntry.noLater, HistoryEntry.noLater, same, Bool.or_self] at total
    rw [HistoryEntry.noLater, same, total]
  have kept : (history.entries.filter fun entry => entry.time == time) <+
      history.chronological :=
    List.sublist_mergeSort HistoryEntry.noLater_trans HistoryEntry.noLater_total tied
      List.filter_sublist
  have inside := kept.filter fun entry => entry.time == time
  rw [List.filter_filter] at inside
  simp only [Bool.and_self] at inside
  exact (inside.eq_of_length (history.chronological_perm.filter _).length_eq.symm).symm

end History

/-- What counts of a log entry: the rule and whether it was complied with. -/
def HistoryEntry.verdict (entry : HistoryEntry) : String × Bool := (entry.ruleId, entry.compliant)

namespace HistoryStatistics

/-- The counts that belong to the verdicts, of all rules and of each that has one. -/
structure Counts (verdicts : List (String × Bool)) (statistics : HistoryStatistics) : Prop where
  total : statistics.total = verdicts.length
  compliant : statistics.compliant = verdicts.countP Prod.snd
  nonCompliant : statistics.nonCompliant = verdicts.countP fun verdict => !verdict.2
  ascending : Keyed.Ascending statistics.perRule
  rules : ∀ id, id ∈ Keyed.keys statistics.perRule ↔ id ∈ verdicts.map Prod.fst
  perRule : ∀ id rule, (id, rule) ∈ statistics.perRule →
    rule.evaluations = (verdicts.map Prod.fst).count id ∧
      rule.compliant = verdicts.count (id, true)

section Pass

variable (entries : List HistoryEntry)

/-! The counts are those of the pass also where it has no entry to go through. -/

theorem total_ofEntries : (ofEntries entries).total = entries.length := by
  cases entries <;> rfl

theorem compliant_ofEntries :
    (ofEntries entries).compliant = (HistoryTally.ofEntries entries).compliant := by
  cases entries <;> rfl

theorem nonCompliant_ofEntries :
    (ofEntries entries).nonCompliant =
      entries.length - (HistoryTally.ofEntries entries).compliant := by
  cases entries <;> rfl

theorem perRule_ofEntries : (ofEntries entries).perRule =
    (HistoryTally.ofEntries entries).perRule.map fun (id, rule) => (id, rule.statistics) := by
  cases entries <;> rfl

theorem keys_perRule_ofEntries : Keyed.keys (ofEntries entries).perRule =
    Keyed.keys (HistoryTally.ofEntries entries).perRule := by
  rw [perRule_ofEntries, Keyed.keys, List.map_map]
  rfl

theorem length_about (id : String) : (HistoryEntry.about id entries).length =
    ((entries.map HistoryEntry.verdict).map Prod.fst).count id := by
  rw [List.count, List.countP_map, List.countP_map, HistoryEntry.about,
    ← List.countP_eq_length_filter]
  rfl

theorem countP_about (id : String) : (HistoryEntry.about id entries).countP HistoryEntry.compliant =
    (entries.map HistoryEntry.verdict).count (id, true) := by
  rw [List.count, List.countP_map, HistoryEntry.about, List.countP_filter]
  apply List.countP_congr
  simp [HistoryEntry.verdict, and_comm]

theorem counts_ofEntries : Counts (entries.map HistoryEntry.verdict) (ofEntries entries) := by
  have covers := HistoryTally.covers_ofEntries entries
  constructor
  case total => rw [total_ofEntries, List.length_map]
  case compliant =>
    rw [compliant_ofEntries, covers.compliant, List.countP_map]
    rfl
  case nonCompliant =>
    have parts := entries.length_eq_countP_add_countP HistoryEntry.compliant
    rw [nonCompliant_ofEntries, covers.compliant, parts, Nat.add_sub_cancel_left, List.countP_map]
    apply List.countP_congr
    simp [HistoryEntry.verdict]
  case ascending =>
    rw [perRule_ofEntries]
    exact List.pairwise_map.mpr covers.ascending
  case rules =>
    intro id
    rw [keys_perRule_ofEntries, covers.rules, List.map_map]
    rfl
  case perRule =>
    intro _ rule member
    rw [perRule_ofEntries] at member
    obtain ⟨⟨id, tally⟩, listed, same⟩ := List.mem_map.mp member
    obtain ⟨rfl, rfl⟩ := Prod.mk.inj same
    have own : tally = .ofEntries (HistoryEntry.about id entries) := by
      rw [← covers.own, HistoryTally.ofRule, covers.ascending.get?_of_mem listed, Option.getD_some]
    rw [own, ← length_about, ← countP_about]
    exact ⟨RuleTally.evaluations_ofEntries _, RuleTally.compliant_ofEntries _⟩

end Pass

theorem Counts.of_perm {verdicts others : List (String × Bool)} {statistics : HistoryStatistics}
    (counts : Counts verdicts statistics) (same : verdicts ~ others) :
    Counts others statistics where
  total := counts.total.trans same.length_eq
  compliant := counts.compliant.trans (same.countP_eq _)
  nonCompliant := counts.nonCompliant.trans (same.countP_eq _)
  ascending := counts.ascending
  rules id := (counts.rules id).trans (same.map Prod.fst).mem_iff
  perRule id rule member := by
    obtain ⟨evaluations, compliant⟩ := counts.perRule id rule member
    exact ⟨evaluations.trans ((same.map Prod.fst).count_eq id),
      compliant.trans (same.count_eq (id, true))⟩

end HistoryStatistics

end Compliance
