import Mathlib.Data.List.Sort
import Compliance.Proofs.History

/-!
How the figures of a log hang together. The rules' counts add up to those of the whole, the order of
the entries has no part in them, and those of a log that goes on are sums of those of its parts.
-/

namespace Compliance

open scoped List

namespace HistoryStatistics

def ofRule (statistics : HistoryStatistics) (count : RuleStatistics → Nat) (id : String) : Nat :=
  (Keyed.get? id statistics.perRule).elim 0 count

def sum (statistics : HistoryStatistics) (count : RuleStatistics → Nat) : Nat :=
  (statistics.perRule.map fun entry => count entry.2).sum

/-- What the statistics say of each rule, but for the times. -/
def ruleCounts (statistics : HistoryStatistics) : List (String × Nat × Nat) :=
  statistics.perRule.map fun (id, rule) => (id, rule.evaluations, rule.compliant)

/-- The statistics count these entries, for the whole and rule by rule, and no subtraction in them
falls short. -/
structure Breakdown (entries : List HistoryEntry) (statistics : HistoryStatistics) : Prop where
  counts : statistics.Counts (entries.map HistoryEntry.verdict)
  within : statistics.compliant ≤ statistics.total
  parts : statistics.compliant + statistics.nonCompliant = statistics.total
  evaluations : statistics.sum RuleStatistics.evaluations = statistics.total
  compliances : statistics.sum RuleStatistics.compliant = statistics.compliant

/-- The statistics differ at most in rates and averages. -/
structure SameCounts (left right : HistoryStatistics) : Prop where
  total : left.total = right.total
  compliant : left.compliant = right.compliant
  nonCompliant : left.nonCompliant = right.nonCompliant
  perRule : left.ruleCounts = right.ruleCounts

/-- All counts are sums of those of the two parts. -/
structure Adds (first later both : HistoryStatistics) : Prop where
  total : both.total = first.total + later.total
  compliant : both.compliant = first.compliant + later.compliant
  nonCompliant : both.nonCompliant = first.nonCompliant + later.nonCompliant
  rules : ∀ id, id ∈ Keyed.keys both.perRule ↔
    id ∈ Keyed.keys first.perRule ∨ id ∈ Keyed.keys later.perRule
  evaluations : ∀ id, both.ofRule RuleStatistics.evaluations id =
    first.ofRule RuleStatistics.evaluations id + later.ofRule RuleStatistics.evaluations id
  compliances : ∀ id, both.ofRule RuleStatistics.compliant id =
    first.ofRule RuleStatistics.compliant id + later.ofRule RuleStatistics.compliant id

theorem breakdown_ofEntries (entries : List HistoryEntry) :
    Breakdown entries (ofEntries entries) := by
  have covers := HistoryTally.covers_ofEntries entries
  have counts := counts_ofEntries entries
  have within : (ofEntries entries).compliant ≤ (ofEntries entries).total := by
    rw [counts.compliant, counts.total]
    exact List.countP_le_length
  refine ⟨counts, within, ?_, ?_, ?_⟩
  · rw [nonCompliant_ofEntries, ← compliant_ofEntries, ← total_ofEntries]
    exact Nat.add_sub_of_le within
  · rw [sum, perRule_ofEntries, List.map_map, total_ofEntries]
    exact covers.evaluations
  · rw [sum, perRule_ofEntries, List.map_map, compliant_ofEntries]
    exact covers.compliances

section Verdicts

variable {verdicts : List (String × Bool)} {statistics : HistoryStatistics}

theorem Counts.ruleCounts_eq (counts : Counts verdicts statistics) :
    statistics.ruleCounts = (Keyed.keys statistics.perRule).map fun id =>
      (id, (verdicts.map Prod.fst).count id, verdicts.count (id, true)) := by
  rw [ruleCounts, Keyed.keys, List.map_map]
  apply List.map_congr_left
  rintro ⟨id, rule⟩ member
  obtain ⟨evaluations, compliant⟩ := counts.perRule id rule member
  dsimp only [Function.comp_apply]
  rw [evaluations, compliant]

theorem Counts.same {other : HistoryStatistics} (counts : Counts verdicts statistics)
    (again : Counts verdicts other) : SameCounts statistics other where
  total := counts.total.trans again.total.symm
  compliant := counts.compliant.trans again.compliant.symm
  nonCompliant := counts.nonCompliant.trans again.nonCompliant.symm
  perRule := by
    have keys : Keyed.keys statistics.perRule = Keyed.keys other.perRule :=
      counts.ascending.keys.eq_of_mem_iff again.ascending.keys fun id =>
        (counts.rules id).trans (again.rules id).symm
    rw [counts.ruleCounts_eq, again.ruleCounts_eq, keys]

theorem Counts.get?_cases (counts : Counts verdicts statistics) (id : String) :
    (∃ rule, Keyed.get? id statistics.perRule = some rule ∧
      rule.evaluations = (verdicts.map Prod.fst).count id ∧
      rule.compliant = verdicts.count (id, true)) ∨
    (Keyed.get? id statistics.perRule = none ∧ id ∉ verdicts.map Prod.fst) := by
  cases found : Keyed.get? id statistics.perRule with
  | some rule => exact .inl ⟨rule, rfl, counts.perRule id rule (Keyed.mem_of_get? found)⟩
  | none =>
      refine .inr ⟨rfl, fun recorded => ?_⟩
      obtain ⟨rule, present⟩ := (Keyed.mem_keys_iff id _).mp ((counts.rules id).mpr recorded)
      rw [found] at present
      contradiction

theorem Counts.evaluations_eq (counts : Counts verdicts statistics) (id : String) :
    statistics.ofRule RuleStatistics.evaluations id = (verdicts.map Prod.fst).count id := by
  rw [ofRule]
  rcases counts.get?_cases id with ⟨rule, found, evaluations, _⟩ | ⟨missing, unrecorded⟩
  · rw [found, Option.elim_some, evaluations]
  · rw [missing, Option.elim_none, List.count_eq_zero_of_not_mem unrecorded]

theorem Counts.compliances_eq (counts : Counts verdicts statistics) (id : String) :
    statistics.ofRule RuleStatistics.compliant id = verdicts.count (id, true) := by
  rw [ofRule]
  rcases counts.get?_cases id with ⟨rule, found, _, compliant⟩ | ⟨missing, unrecorded⟩
  · rw [found, Option.elim_some, compliant]
  · have absent : (id, true) ∉ verdicts := fun listed => unrecorded (List.mem_map_of_mem listed)
    rw [missing, Option.elim_none, List.count_eq_zero_of_not_mem absent]

theorem Counts.adds {earlier : List (String × Bool)} {first later both : HistoryStatistics}
    (before : Counts earlier first) (after : Counts verdicts later)
    (all : Counts (earlier ++ verdicts) both) : Adds first later both where
  total := by rw [all.total, before.total, after.total, List.length_append]
  compliant := by rw [all.compliant, before.compliant, after.compliant, List.countP_append]
  nonCompliant := by
    rw [all.nonCompliant, before.nonCompliant, after.nonCompliant, List.countP_append]
  rules id := by
    rw [all.rules, before.rules, after.rules, List.map_append, List.mem_append]
  evaluations id := by
    rw [all.evaluations_eq, before.evaluations_eq, after.evaluations_eq, List.map_append,
      List.count_append]
  compliances id := by
    rw [all.compliances_eq, before.compliances_eq, after.compliances_eq, List.count_append]

end Verdicts

end HistoryStatistics

namespace History

/-- The log after the entries are recorded, one after the other. -/
def recordAll (history : History) (entries : List HistoryEntry) : History :=
  entries.foldl record history

theorem entries_recordAll (history : History) (entries : List HistoryEntry) :
    (history.recordAll entries).entries = history.entries ++ entries := by
  induction entries generalizing history with
  | nil => exact (List.append_nil _).symm
  | cons entry rest ih =>
      rw [recordAll, List.foldl_cons, ← recordAll, ih, record, List.append_assoc]
      rfl

theorem statistics_recordAll (entries : List HistoryEntry) :
    (empty.recordAll entries).statistics = .ofEntries entries := by
  rw [statistics, entries_recordAll]
  rfl

/-- The statistics of whatever was recorded are a breakdown of it, the same in every order, and add
up when more is recorded. -/
theorem statistics_exact (entries : List HistoryEntry) :
    (empty.recordAll entries).statistics.Breakdown entries ∧
      (∀ others, others ~ entries →
        (empty.recordAll others).statistics.SameCounts (empty.recordAll entries).statistics) ∧
      ∀ later, HistoryStatistics.Adds (empty.recordAll entries).statistics
        (empty.recordAll later).statistics ((empty.recordAll entries).recordAll later).statistics := by
  have counts := HistoryStatistics.counts_ofEntries
  refine ⟨?_, ?_, ?_⟩
  · rw [statistics_recordAll]
    exact HistoryStatistics.breakdown_ofEntries entries
  · intro others same
    rw [statistics_recordAll, statistics_recordAll]
    exact ((counts others).of_perm (same.map HistoryEntry.verdict)).same (counts entries)
  · intro later
    have joined : (empty.recordAll entries).recordAll later =
        empty.recordAll (entries ++ later) := List.foldl_append.symm
    have all := counts (entries ++ later)
    rw [List.map_append] at all
    rw [joined, statistics_recordAll, statistics_recordAll, statistics_recordAll]
    exact (counts entries).adds (counts later) all

/-- Two rules whose entries alternate. -/
theorem statistics_exact_alternating :
    [⟨"b", .epoch, false, 2.0⟩, ⟨"a", .epoch, true, 1.0⟩, ⟨"a", .epoch, false, 4.0⟩] ~
        ([⟨"a", .epoch, true, 1.0⟩, ⟨"b", .epoch, false, 2.0⟩, ⟨"a", .epoch, false, 4.0⟩] :
          List HistoryEntry) ∧
      (empty.recordAll [⟨"b", .epoch, false, 2.0⟩, ⟨"a", .epoch, true, 1.0⟩,
          ⟨"a", .epoch, false, 4.0⟩]).statistics.ruleCounts = [("a", 2, 1), ("b", 1, 0)] := by
  have swapped :
      [⟨"b", .epoch, false, 2.0⟩, ⟨"a", .epoch, true, 1.0⟩, ⟨"a", .epoch, false, 4.0⟩] ~
        ([⟨"a", .epoch, true, 1.0⟩, ⟨"b", .epoch, false, 2.0⟩, ⟨"a", .epoch, false, 4.0⟩] :
          List HistoryEntry) := List.Perm.swap _ _ _
  have counted : (empty.recordAll [⟨"a", .epoch, true, 1.0⟩, ⟨"b", .epoch, false, 2.0⟩,
      ⟨"a", .epoch, false, 4.0⟩]).statistics.ruleCounts = [("a", 2, 1), ("b", 1, 0)] := by
    decide +kernel
  obtain ⟨_, reordered, _⟩ := statistics_exact
    [⟨"a", .epoch, true, 1.0⟩, ⟨"b", .epoch, false, 2.0⟩, ⟨"a", .epoch, false, 4.0⟩]
  exact ⟨swapped, (reordered _ swapped).perRule.trans counted⟩

end History

end Compliance
