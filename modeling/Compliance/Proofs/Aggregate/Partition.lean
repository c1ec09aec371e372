import Mathlib.Data.List.Induction
import Compliance.Aggregate

/-!
Aggregates as one pass over the reports, which counts each of them once and lists each failure once.
So the counts and lists of a whole follow from those of its parts, and the counts do not depend on
the order of the reports.
-/

namespace Compliance

open scoped List

/-- What a pass over the reports has counted and listed so far. -/
structure Tally where
  compliant : Nat := 0
  nonCompliant : Nat := 0
  errors : Nat := 0
  criticalFailures : List CriticalFailure := []
  warnings : List Warning := []

namespace RuleReport

/-- The entry for a report on a failure of the critical severity. -/
def criticalFailure? (criticalAt : Severity) : RuleReport → Option CriticalFailure
  | evaluated evaluation =>
      if evaluation.compliant = false ∧ evaluation.outcome.severity = some criticalAt then
        some
          { ruleId := evaluation.ruleId
            source := evaluation.source
            message := evaluation.outcome.message
            consequence := evaluation.outcome.consequence
            remedy := evaluation.outcome.remedy }
      else none
  | error _ => none

/-- The entry for a report on a failure of another severity, or of none. -/
def warning? (criticalAt : Severity) : RuleReport → Option Warning
  | evaluated evaluation =>
      if evaluation.compliant = false ∧ evaluation.outcome.severity ≠ some criticalAt then
        some
          { ruleId := evaluation.ruleId
            source := evaluation.source
            severity := evaluation.outcome.severity
            detail := evaluation.outcome.message }
      else none
  | error _ => none

def complies : RuleReport → Bool
  | evaluated evaluation => evaluation.compliant
  | error _ => false

def fails : RuleReport → Bool
  | evaluated evaluation => !evaluation.compliant
  | error _ => false

def isError : RuleReport → Bool
  | evaluated _ => false
  | error _ => true

end RuleReport

namespace Tally

def add (criticalAt : Severity) (tally : Tally) : RuleReport → Tally
  | .error _ => { tally with errors := tally.errors + 1 }
  | .evaluated evaluation =>
      if evaluation.compliant then { tally with compliant := tally.compliant + 1 }
      else if evaluation.isCritical criticalAt then
        { tally with
          nonCompliant := tally.nonCompliant + 1
          criticalFailures := tally.criticalFailures ++ [.ofEvaluation evaluation] }
      else
        { tally with
          nonCompliant := tally.nonCompliant + 1
          warnings := tally.warnings ++ [.ofEvaluation evaluation] }

def addAll (criticalAt : Severity) (tally : Tally) (reports : List RuleReport) : Tally :=
  reports.foldl (add criticalAt) tally

theorem add_of_compliant (criticalAt : Severity) (tally : Tally) {evaluation : Evaluation}
    (complies : evaluation.compliant = true) :
    tally.add criticalAt (.evaluated evaluation) =
      { tally with compliant := tally.compliant + 1 } := by
  rw [add, if_pos complies]

theorem add_of_critical {criticalAt : Severity} (tally : Tally) {evaluation : Evaluation}
    (fails : evaluation.compliant = false)
    (critical : evaluation.outcome.severity = some criticalAt) :
    tally.add criticalAt (.evaluated evaluation) =
      { tally with
        nonCompliant := tally.nonCompliant + 1
        criticalFailures := tally.criticalFailures ++ [.ofEvaluation evaluation] } := by
  have isCritical : evaluation.isCritical criticalAt = true := by
    simp [Evaluation.isCritical, critical]
  rw [add, if_neg (by simp [fails]), if_pos isCritical]

theorem add_of_warning {criticalAt : Severity} (tally : Tally) {evaluation : Evaluation}
    (fails : evaluation.compliant = false)
    (other : evaluation.outcome.severity ≠ some criticalAt) :
    tally.add criticalAt (.evaluated evaluation) =
      { tally with
        nonCompliant := tally.nonCompliant + 1
        warnings := tally.warnings ++ [.ofEvaluation evaluation] } := by
  have notCritical : evaluation.isCritical criticalAt = false := by
    simp [Evaluation.isCritical, other]
  rw [add, if_neg (by simp [fails]), if_neg (by simp [notCritical])]

/-- The counts and lists that belong to the reports, told by what each report is. -/
structure Counts (criticalAt : Severity) (reports : List RuleReport) (tally : Tally) : Prop where
  compliant : tally.compliant = reports.countP RuleReport.complies
  nonCompliant : tally.nonCompliant = reports.countP RuleReport.fails
  errors : tally.errors = reports.countP RuleReport.isError
  criticalFailures :
    tally.criticalFailures = reports.filterMap (RuleReport.criticalFailure? criticalAt)
  warnings : tally.warnings = reports.filterMap (RuleReport.warning? criticalAt)

theorem Counts.add {criticalAt : Severity} {reports : List RuleReport} {tally : Tally}
    (counts : Counts criticalAt reports tally) (report : RuleReport) :
    Counts criticalAt (reports ++ [report]) (tally.add criticalAt report) := by
  obtain ⟨compliant, nonCompliant, errors, criticalFailures, warnings⟩ := counts
  cases report with
  | error missing =>
      constructor <;> simp [*, Tally.add, RuleReport.complies, RuleReport.fails,
        RuleReport.isError, RuleReport.criticalFailure?, RuleReport.warning?]
  | evaluated evaluation =>
      cases verdict : evaluation.compliant with
      | true =>
          rw [add_of_compliant criticalAt tally verdict]
          constructor <;> simp [*, RuleReport.complies, RuleReport.fails,
            RuleReport.isError, RuleReport.criticalFailure?, RuleReport.warning?]
      | false =>
          by_cases critical : evaluation.outcome.severity = some criticalAt
          · rw [add_of_critical tally verdict critical]
            constructor <;> simp [*, RuleReport.complies, RuleReport.fails, RuleReport.isError,
              RuleReport.criticalFailure?, RuleReport.warning?, CriticalFailure.ofEvaluation]
          · rw [add_of_warning tally verdict critical]
            constructor <;> simp [*, RuleReport.complies, RuleReport.fails, RuleReport.isError,
              RuleReport.criticalFailure?, RuleReport.warning?, Warning.ofEvaluation]

theorem Counts.addAll {criticalAt : Severity} {passed : List RuleReport} {tally : Tally}
    (counts : Counts criticalAt passed tally) (reports : List RuleReport) :
    Counts criticalAt (passed ++ reports) (tally.addAll criticalAt reports) := by
  induction reports generalizing passed tally with
  | nil => simpa [Tally.addAll] using counts
  | cons report rest ih => simpa [Tally.addAll] using ih (counts.add report)

theorem counts_addAll (criticalAt : Severity) (reports : List RuleReport) :
    Counts criticalAt reports (addAll criticalAt {} reports) := by
  have nothing : Counts criticalAt [] {} := ⟨rfl, rfl, rfl, rfl, rfl⟩
  exact nothing.addAll reports

end Tally

theorem countP_kinds (reports : List RuleReport) :
    reports.countP RuleReport.complies + reports.countP RuleReport.fails +
      reports.countP RuleReport.isError = reports.length := by
  induction reports with
  | nil => rfl
  | cons report rest ih =>
      have one : (if report.complies then 1 else 0) + (if report.fails then 1 else 0) +
          (if report.isError then 1 else 0) = 1 := by
        cases report with
        | error missing => rfl
        | evaluated evaluation =>
            cases verdict : evaluation.compliant <;>
              simp [RuleReport.complies, RuleReport.fails, RuleReport.isError, verdict]
      rw [List.countP_cons, List.countP_cons, List.countP_cons, List.length_cons]
      omega

theorem length_listed (criticalAt : Severity) (reports : List RuleReport) :
    (reports.filterMap (RuleReport.criticalFailure? criticalAt)).length +
      (reports.filterMap (RuleReport.warning? criticalAt)).length =
        reports.countP RuleReport.fails := by
  induction reports with
  | nil => rfl
  | cons report rest ih =>
      rw [List.countP_cons, ← ih]
      cases report with
      | error missing => rfl
      | evaluated evaluation =>
          by_cases critical : evaluation.outcome.severity = some criticalAt <;>
            cases verdict : evaluation.compliant <;>
            simp [RuleReport.criticalFailure?, RuleReport.warning?, RuleReport.fails, critical,
              verdict] <;> omega

namespace Aggregate

def tally (aggregate : Aggregate) : Tally where
  compliant := aggregate.compliant
  nonCompliant := aggregate.nonCompliant
  errors := aggregate.errors
  criticalFailures := aggregate.criticalFailures
  warnings := aggregate.warnings

theorem tally_append_singleton (criticalAt : Severity) (reports : List RuleReport)
    (report : RuleReport) (clock : ClockReading) :
    (ofReports criticalAt (reports ++ [report]) clock).tally =
      (ofReports criticalAt reports clock).tally.add criticalAt report := by
  cases report with
  | error missing =>
      simp [tally, ofReports, Tally.add, failuresOf, evaluationsOf, RuleReport.evaluation?]
  | evaluated evaluation =>
      cases verdict : evaluation.compliant with
      | true =>
          rw [Tally.add_of_compliant _ _ verdict]
          simp [tally, ofReports, failuresOf, evaluationsOf, RuleReport.evaluation?, verdict]
      | false =>
          by_cases critical : evaluation.outcome.severity = some criticalAt
          · rw [Tally.add_of_critical _ verdict critical]
            simp [tally, ofReports, failuresOf, evaluationsOf, RuleReport.evaluation?, verdict,
              Evaluation.isCritical, critical]
          · rw [Tally.add_of_warning _ verdict critical]
            simp [tally, ofReports, failuresOf, evaluationsOf, RuleReport.evaluation?, verdict,
              Evaluation.isCritical, critical]

theorem tally_ofReports (criticalAt : Severity) (reports : List RuleReport)
    (clock : ClockReading) :
    (ofReports criticalAt reports clock).tally = Tally.addAll criticalAt {} reports := by
  induction reports using List.reverseRecOn with
  | nil => rfl
  | append_singleton passed report ih =>
      rw [tally_append_singleton, ih, Tally.addAll, Tally.addAll, List.foldl_append]
      rfl

/-- The reports are counted and listed completely, each of them once, and kept as they are. -/
structure Partitions (criticalAt : Severity) (reports : List RuleReport) (aggregate : Aggregate) :
    Prop where
  total : aggregate.total = reports.length
  summed : aggregate.compliant + aggregate.nonCompliant + aggregate.errors = aggregate.total
  counted : aggregate.tally.Counts criticalAt reports
  overall : aggregate.overallCompliant = true ↔
    ∀ evaluation, .evaluated evaluation ∈ reports → evaluation.compliant = true
  kept : aggregate.reports = reports
  listed : aggregate.criticalFailures.length + aggregate.warnings.length = aggregate.nonCompliant

/-- The aggregate of two lists of reports, one after the other. -/
def join (first second : Aggregate) (clock : ClockReading) : Aggregate where
  total := first.total + second.total
  compliant := first.compliant + second.compliant
  nonCompliant := first.nonCompliant + second.nonCompliant
  errors := first.errors + second.errors
  overallCompliant := first.overallCompliant && second.overallCompliant
  criticalFailures := first.criticalFailures ++ second.criticalFailures
  warnings := first.warnings ++ second.warnings
  reports := first.reports ++ second.reports
  time := clock.time
  milliseconds := clock.milliseconds

/-- The same counts and verdict, and the same entries in whatever order. -/
structure Matches (left right : Aggregate) : Prop where
  total : left.total = right.total
  compliant : left.compliant = right.compliant
  nonCompliant : left.nonCompliant = right.nonCompliant
  errors : left.errors = right.errors
  overallCompliant : left.overallCompliant = right.overallCompliant
  criticalFailures : left.criticalFailures ~ right.criticalFailures
  warnings : left.warnings ~ right.warnings

theorem mem_evaluationsOf (evaluation : Evaluation) (reports : List RuleReport) :
    evaluation ∈ evaluationsOf reports ↔ .evaluated evaluation ∈ reports := by
  rw [evaluationsOf, List.mem_filterMap]
  constructor
  · rintro ⟨report, member, same⟩
    cases report with
    | error missing => cases same
    | evaluated found => exact Option.some.inj same ▸ member
  · intro member
    exact ⟨_, member, rfl⟩

theorem partitions_ofReports (criticalAt : Severity) (reports : List RuleReport)
    (clock : ClockReading) :
    Partitions criticalAt reports (ofReports criticalAt reports clock) := by
  have counts : Tally.Counts criticalAt reports (ofReports criticalAt reports clock).tally := by
    rw [tally_ofReports]
    exact Tally.counts_addAll criticalAt reports
  constructor
  case total => rfl
  case summed =>
    have kinds := countP_kinds reports
    rw [← counts.compliant, ← counts.nonCompliant, ← counts.errors] at kinds
    exact kinds
  case counted => exact counts
  case overall =>
    have none : (ofReports criticalAt reports clock).overallCompliant = true ↔
        failuresOf reports = [] := List.isEmpty_iff
    rw [none, failuresOf, List.filter_eq_nil_iff]
    simp [mem_evaluationsOf]
  case kept => rfl
  case listed =>
    have entries := length_listed criticalAt reports
    rw [← counts.criticalFailures, ← counts.warnings, ← counts.nonCompliant] at entries
    exact entries

theorem ofReports_append (criticalAt : Severity) (first second : List RuleReport)
    (clock firstClock secondClock : ClockReading) :
    ofReports criticalAt (first ++ second) clock =
      (ofReports criticalAt first firstClock).join (ofReports criticalAt second secondClock)
        clock := by
  have noneFails (left right : List Evaluation) :
      (left ++ right).isEmpty = (left.isEmpty && right.isEmpty) := by
    cases left <;> rfl
  simp [ofReports, join, evaluationsOf, failuresOf, noneFails]

theorem matches_of_perm (criticalAt : Severity) {others reports : List RuleReport}
    (same : others ~ reports) (clock otherClock : ClockReading) :
    (ofReports criticalAt others otherClock).Matches (ofReports criticalAt reports clock) := by
  have evaluations : evaluationsOf others ~ evaluationsOf reports := same.filterMap _
  have failures : failuresOf others ~ failuresOf reports := evaluations.filter _
  exact {
    total := same.length_eq
    compliant := evaluations.countP_eq _
    nonCompliant := failures.length_eq
    errors := same.countP_eq _
    overallCompliant := failures.isEmpty_eq
    criticalFailures := (failures.filter _).map _
    warnings := (failures.filter _).map _ }

/-- An aggregate partitions its reports, whatever the critical severity is; that of two lists of
reports is put together from those of each, and their order decides nothing but the order of what
is listed. -/
theorem ofReports_partitions (criticalAt : Severity) :
    (∀ reports clock, Partitions criticalAt reports (ofReports criticalAt reports clock)) ∧
    (∀ first second clock firstClock secondClock,
      ofReports criticalAt (first ++ second) clock =
        (ofReports criticalAt first firstClock).join (ofReports criticalAt second secondClock)
          clock) ∧
    ∀ reports others, others ~ reports → ∀ clock otherClock,
      (ofReports criticalAt others otherClock).Matches (ofReports criticalAt reports clock) :=
  ⟨partitions_ofReports criticalAt, ofReports_append criticalAt,
    fun _ _ same => matches_of_perm criticalAt same⟩

/-- A critical failure, an unknown id, a lesser failure and a compliant rule, also backwards. -/
theorem ofReports_partitions_reversed :
    let found (id : String) (compliant : Bool) (severity : Option Severity) : RuleReport :=
      .evaluated
        { ruleId := id, source := "PACE", kind := .mandatoryProcedure, compliant, vacuous := false
          evidence := [], missing := []
          outcome := { result := "R", message := id, severity, details := "" }
          milliseconds := 0, time := .epoch }
    let reports := [found "caution" false (some .critical), .error (.ofUnknown "ghost" []),
      found "notes" false none, found "arrest" true (some .critical)]
    let aggregate := ofReports .critical reports ⟨.epoch, 0⟩
    reports.reverse ~ reports ∧
    (ofReports .critical reports.reverse ⟨.epoch, 0⟩).Matches aggregate ∧
    Partitions .critical reports aggregate ∧
    aggregate.nonCompliant = 2 ∧
    aggregate.criticalFailures.map CriticalFailure.ruleId = ["caution"] ∧
    aggregate.warnings.map Warning.ruleId = ["notes"] := by
  intro found reports aggregate
  have all := ofReports_partitions .critical
  have same : reports.reverse ~ reports := reports.reverse_perm
  exact ⟨same, all.2.2 reports reports.reverse same ⟨.epoch, 0⟩ ⟨.epoch, 0⟩,
    all.1 reports ⟨.epoch, 0⟩, rfl, rfl, rfl⟩

end Aggregate

end Compliance
