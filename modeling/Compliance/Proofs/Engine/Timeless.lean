import Compliance.Proofs.Engine.Log

/-!
Evaluations, reports and aggregates apart from when they were made and how long that took. What a
clock shows enters nothing else, so engines that differ in their clocks alone agree on the rest.
-/

namespace Compliance

def Evaluation.timeless (evaluation : Evaluation) : Evaluation :=
  { evaluation with milliseconds := 0, time := .epoch }

def RuleReport.timeless : RuleReport → RuleReport
  | evaluated evaluation => evaluated evaluation.timeless
  | error missing => error missing

def Aggregate.timeless (aggregate : Aggregate) : Aggregate :=
  { aggregate with
    reports := aggregate.reports.map RuleReport.timeless, milliseconds := 0, time := .epoch }

namespace Aggregate

theorem evaluationsOf_map {view : RuleReport → RuleReport} {shown : Evaluation → Evaluation}
    (seen : ∀ report, (view report).evaluation? = report.evaluation?.map shown)
    (reports : List RuleReport) :
    evaluationsOf (reports.map view) = (evaluationsOf reports).map shown := by
  rw [evaluationsOf, evaluationsOf, List.filterMap_map, List.map_filterMap]
  exact congrArg (List.filterMap · reports) (funext seen)

theorem evaluationsOf_timeless (reports : List RuleReport) :
    evaluationsOf (reports.map RuleReport.timeless) =
      (evaluationsOf reports).map Evaluation.timeless :=
  evaluationsOf_map (by rintro (_ | _) <;> rfl) reports

theorem failuresOf_timeless (reports : List RuleReport) :
    failuresOf (reports.map RuleReport.timeless) =
      (failuresOf reports).map Evaluation.timeless := by
  rw [failuresOf, failuresOf, evaluationsOf_timeless, List.filter_map]
  rfl

theorem timeless_ofReports (criticalAt : Severity) (reports : List RuleReport)
    (clock : ClockReading) :
    (ofReports criticalAt reports clock).timeless =
      ofReports criticalAt (reports.map RuleReport.timeless) ⟨.epoch, 0⟩ := by
  have missing : (reports.map RuleReport.timeless).countP
      (fun report => report.evaluation?.isNone) =
      reports.countP fun report => report.evaluation?.isNone := by
    rw [List.countP_map]
    congr 1
    funext report
    cases report <;> rfl
  simp only [ofReports, timeless, missing, evaluationsOf_timeless, failuresOf_timeless,
    List.countP_map, List.length_map, List.filter_map, List.map_map, List.isEmpty_map]
  rfl

end Aggregate

namespace Engine

theorem reportOn_timeless (engine : Engine) (document : Document) (left right : ClockReading)
    (id : String) :
    (engine.reportOn document left id).timeless = (engine.reportOn document right id).timeless := by
  cases known : engine.registry.get? id with
  | none => rw [reportOn_of_none known, reportOn_of_none known]
  | some rule =>
      rw [reportOn_of_some known, reportOn_of_some known]
      rfl

theorem reportsOn_timeless (engine : Engine) (document : Document) (left right : Nat → ClockReading)
    (ids : List (String × Nat)) :
    (ids.map fun (id, index) => engine.reportOn document (left index) id).map RuleReport.timeless =
      (ids.map fun (id, index) => engine.reportOn document (right index) id).map
        RuleReport.timeless := by
  simp only [List.map_map]
  apply List.map_congr_left
  rintro ⟨id, index⟩ _
  exact engine.reportOn_timeless document (left index) (right index) id

end Engine

end Compliance
