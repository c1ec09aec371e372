import Compliance.Aggregate
import Compliance.Proofs.Evaluation

/-!
Reports and the verdict of a rule set read back from what they are written as. The tag that tells
the two kinds of reports apart stands among the members of the report, so each kind is read from
what is left without it.
-/

namespace Compliance

namespace CriticalFailure

def fields (failure : CriticalFailure) : List (String × Option Json) :=
  [("rule_id", some (.string failure.ruleId)), ("source", some (.string failure.source)),
    ("message", some (.string failure.message)), ("consequence", failure.consequence.map .string),
    ("remedy", failure.remedy.map .string)]

theorem fields_distinct (failure : CriticalFailure) : (failure.fields.map Prod.fst).Nodup := by
  change ["rule_id", "source", "message", "consequence", "remedy"].Nodup
  decide

theorem toJson_eq (failure : CriticalFailure) :
    failure.toJson = .object (presentMembers failure.fields) := by
  simp [toJson, fields, presentMembers, optionalMember, Option.toList_map, Function.comp_def]

theorem decode_toJson (failure : CriticalFailure) (layer : Layer) :
    decode layer failure.toJson.sorted = .ok failure := by
  obtain ⟨inOrder, same, holds⟩ := holding_of_sorted failure.fields_distinct
  rw [toJson_eq, same]
  refine Fields.record_of_named (Fields.named_seq (Fields.named_seq (Fields.named_seq
    (Fields.named_seq (Fields.named_map mk ?ruleId) ?source) ?message) ?consequence) ?remedy)
  case ruleId => exact Fields.named_field_of_held (holds "rule_id" _ rfl) rfl
  case source => exact Fields.named_field_of_held (holds "source" _ rfl) rfl
  case message => exact Fields.named_field_of_held (holds "message" _ rfl) rfl
  case consequence => exact Fields.named_optional (holds "consequence" _ rfl) fun _ _ => rfl
  case remedy => exact Fields.named_optional (holds "remedy" _ rfl) fun _ _ => rfl

end CriticalFailure

namespace Warning

def fields (warning : Warning) : List (String × Option Json) :=
  [("rule_id", some (.string warning.ruleId)), ("source", some (.string warning.source)),
    ("severity", warning.severity.map Severity.toJson), ("detail", some (.string warning.detail))]

theorem fields_distinct (warning : Warning) : (warning.fields.map Prod.fst).Nodup := by
  change ["rule_id", "source", "severity", "detail"].Nodup
  decide

theorem toJson_eq (warning : Warning) :
    warning.toJson = .object (presentMembers warning.fields) := by
  simp [toJson, fields, presentMembers, optionalMember, Option.toList_map, Function.comp_def]

theorem decode_toJson (warning : Warning) (layer : Layer) :
    decode layer warning.toJson.sorted = .ok warning := by
  obtain ⟨inOrder, same, holds⟩ := holding_of_sorted warning.fields_distinct
  rw [toJson_eq, same]
  refine Fields.record_of_named (Fields.named_seq (Fields.named_seq (Fields.named_seq
    (Fields.named_map mk ?ruleId) ?source) ?severity) ?detail)
  case ruleId => exact Fields.named_field_of_held (holds "rule_id" _ rfl) rfl
  case source => exact Fields.named_field_of_held (holds "source" _ rfl) rfl
  case severity =>
    exact Fields.named_optional (holds "severity" _ rfl) fun severity _ =>
      severity.decode_optional_toJson layer
  case detail => exact Fields.named_field_of_held (holds "detail" _ rfl) rfl

end Warning

namespace MissingRule

def fields (missing : MissingRule) : List (String × Option Json) :=
  missing.members.map fun member => (member.1, some member.2)

theorem returns_of_holding (missing : MissingRule) (layer : Layer)
    {members : List (String × Json)} (holds : Holding missing.fields members) :
    Returns (decode layer (.object members)) True missing := by
  apply Returns.congr (.record (.seq (.seq (.make mk ?ruleId) ?message) ?knownRules)) ?given
  case ruleId => exact .field (holds "rule_id" _ rfl) (.of_ok rfl)
  case message => exact .field (holds "message" _ rfl) (.of_ok rfl)
  case knownRules => exact .field (holds "known_rules" _ rfl) (.list fun _ _ => .of_ok rfl)
  case given => simp

end MissingRule

namespace RuleReport

def Expressible : RuleReport → Prop
  | evaluated evaluation => evaluation.Expressible
  | error _ => True

theorem returns_of_tagged {tag : String} {status : Status} (fields : List (String × Option Json))
    {report : RuleReport} {given : Prop} (distinct : ("status" :: fields.map Prod.fst).Nodup)
    (known : decodeStatus (.string tag) = .ok status)
    (content : ∀ members, Holding fields members →
      Returns (decodeContent (.object members) status) given report) (layer : Layer) :
    Returns (decode layer
      (Json.object (presentMembers (("status", some (.string tag)) :: fields))).sorted)
      given report := by
  have apart : "status" ∉ fields.map Prod.fst := (List.nodup_cons.mp distinct).1
  have others : fields.filter (fun field => ["status"].contains field.1) = [] := by
    rw [List.filter_eq_nil_iff]
    intro field listed tagged
    have same : field.1 = "status" := by simpa using tagged
    exact apart (same ▸ List.mem_map_of_mem listed)
  have tagged : ((("status", some (.string tag)) :: fields).map Prod.fst).Nodup := distinct
  obtain ⟨inOrder, same, holds⟩ := holding_of_sorted tagged
  have first : HeldUnder ["status"] inOrder (some (.string tag)) := by
    apply holds "status" (some (.string tag))
    rw [List.filter_cons_of_pos (by simp), others]
  rw [same, decode, first.get?_eq]
  change Returns ((decodeStatus (.string tag)).bind _) given report
  rw [known]
  exact content _ (holds.untagged apart)

theorem returns_decode (report : RuleReport)
    (proper : ∀ evaluation ∈ report.evaluation?, evaluation.time.Proper) (layer : Layer) :
    Returns (decode layer report.toJson.sorted) report.Expressible report := by
  cases report with
  | evaluated evaluation =>
      refine returns_of_tagged evaluation.fields ?_ rfl ?_ layer
      · change ("status" :: ["rule_id", "source", "kind", "compliant", "vacuously_true", "evidence",
          "missing", "outcome", "duration_ms", "timestamp"]).Nodup
        decide
      · intro members holds
        exact (Evaluation.returns_of_holding (proper evaluation rfl) .tagged holds).map _
  | error missing =>
      refine returns_of_tagged missing.fields ?_ rfl ?_ layer
      · change ("status" :: ["rule_id", "message", "known_rules"]).Nodup
        decide
      · intro members holds
        exact (missing.returns_of_holding .tagged holds).map _

end RuleReport

namespace Aggregate

/-- All floating point numbers are finite, and no count or index is beyond a word. -/
@[mk_iff]
structure Expressible (aggregate : Aggregate) : Prop where
  total : aggregate.total < wordCount
  compliant : aggregate.compliant < wordCount
  nonCompliant : aggregate.nonCompliant < wordCount
  errors : aggregate.errors < wordCount
  reports : ∀ report ∈ aggregate.reports, report.Expressible
  milliseconds : aggregate.milliseconds.isFinite = true

/-- Every moment in it is one of the calendar. -/
structure Dated (aggregate : Aggregate) : Prop where
  time : aggregate.time.Proper
  evaluations : ∀ evaluation ∈ aggregate.evaluations, evaluation.time.Proper

def fields (aggregate : Aggregate) : List (String × Option Json) :=
  [("total_rules", some (.integer aggregate.total)),
    ("compliant", some (.integer aggregate.compliant)),
    ("non_compliant", some (.integer aggregate.nonCompliant)),
    ("errors", some (.integer aggregate.errors)),
    ("overall_compliant", some (.bool aggregate.overallCompliant)),
    ("critical_failures", some (.array (aggregate.criticalFailures.map CriticalFailure.toJson))),
    ("warnings", some (.array (aggregate.warnings.map Warning.toJson))),
    ("results", some (.array (aggregate.reports.map RuleReport.toJson))),
    ("evaluated_at", some aggregate.time.toJson),
    ("duration_ms", some (.ofFloat aggregate.milliseconds))]

theorem fields_distinct (aggregate : Aggregate) : (aggregate.fields.map Prod.fst).Nodup := by
  change ["total_rules", "compliant", "non_compliant", "errors", "overall_compliant",
    "critical_failures", "warnings", "results", "evaluated_at", "duration_ms"].Nodup
  decide

theorem toJson_eq (aggregate : Aggregate) :
    aggregate.toJson = .object (presentMembers aggregate.fields) := rfl

theorem Dated.proper {aggregate : Aggregate} (dated : aggregate.Dated) {report : RuleReport}
    (listed : report ∈ aggregate.reports) :
    ∀ evaluation ∈ report.evaluation?, evaluation.time.Proper := by
  intro evaluation present
  exact dated.evaluations evaluation (List.mem_filterMap.mpr ⟨report, listed, present⟩)

theorem returns_decode {aggregate : Aggregate} (dated : aggregate.Dated) (layer : Layer) :
    Returns (decode layer aggregate.toJson.sorted) aggregate.Expressible aggregate := by
  obtain ⟨inOrder, same, holds⟩ := holding_of_sorted aggregate.fields_distinct
  rw [toJson_eq, same]
  apply Returns.congr (.record (.seq (.seq (.seq (.seq (.seq (.seq (.seq (.seq (.seq
    (.make mk ?total) ?compliant) ?nonCompliant) ?errors) ?overallCompliant) ?criticalFailures)
    ?warnings) ?reports) ?time) ?milliseconds)) ?given
  case total => exact .field (holds "total_rules" _ rfl) (.count layer _)
  case compliant => exact .field (holds "compliant" _ rfl) (.count layer _)
  case nonCompliant => exact .field (holds "non_compliant" _ rfl) (.count layer _)
  case errors => exact .field (holds "errors" _ rfl) (.count layer _)
  case overallCompliant => exact .field (holds "overall_compliant" _ rfl) (.of_ok rfl)
  case criticalFailures =>
    exact .field (holds "critical_failures" _ rfl)
      (.list fun failure _ => .of_ok (failure.decode_toJson layer))
  case warnings =>
    exact .field (holds "warnings" _ rfl)
      (.list fun warning _ => .of_ok (warning.decode_toJson layer))
  case reports =>
    exact .field (holds "results" _ rfl)
      (.list fun report listed => report.returns_decode (dated.proper listed) layer)
  case time => exact .field (holds "evaluated_at" _ rfl) (.of_ok (dated.time.decode_toJson layer))
  case milliseconds => exact .field (holds "duration_ms" _ rfl) (.float layer _)
  case given => simp [expressible_iff, and_assoc]

/-- Aggregates and evaluations come back from what they are written as, whatever is present in
them, exactly if all their floating point numbers are finite and their counts and indices fit in a
word. Anything else is refused, never read as another value. -/
theorem reread_exactly_if_expressible :
    (∀ aggregate : Aggregate, aggregate.Dated →
      Returns (decode .plain aggregate.toJson.sorted) aggregate.Expressible aggregate) ∧
    ∀ evaluation : Evaluation, evaluation.time.Proper →
      Returns (Evaluation.decode .plain evaluation.toJson.sorted) evaluation.Expressible
        evaluation :=
  ⟨fun _ dated => returns_decode dated .plain,
    fun _ proper => Evaluation.returns_decode proper .plain⟩

/-- A failed rule with a quotation, a compliant one with hardly any field, and an unknown one. An
endless duration is refused. -/
theorem reread_exactly_if_expressible_mixed :
    let arrest : Evaluation :=
      { ruleId := "arrest", source := "PACE", kind := .mandatoryProcedure, compliant := false
        vacuous := false, evidence := [⟨"caution", "No caution", 1, "He ran. No caution", 0.9⟩]
        missing := ["Grounds"]
        outcome := { result := "unlawful", message := "No grounds", severity := some .critical,
                     remedy := some "Release", details := "1 of 2" }
        milliseconds := 0.25, time := .epoch }
    let notes : Evaluation :=
      { ruleId := "notes", source := "", kind := .interpretiveGuidance, compliant := true
        vacuous := true, evidence := [], missing := []
        outcome := { result := "kept", message := "Kept", details := "" }
        milliseconds := 0, time := .epoch }
    let aggregate := ofReports .critical
      [.evaluated arrest, .error (.ofUnknown "ghost" ["arrest", "notes"]), .evaluated notes]
      ⟨.epoch, 1.5⟩
    let endless := { arrest with milliseconds := 1.0 / 0.0 }
    aggregate.Dated ∧ decode .plain aggregate.toJson.sorted = .ok aggregate ∧
      ∃ fault, Evaluation.decode .plain endless.toJson.sorted = .error fault := by
  intro arrest notes aggregate endless
  have dated : aggregate.Dated := {
    time := Timestamp.proper_epoch
    evaluations := List.forall_mem_cons.mpr ⟨Timestamp.proper_epoch,
      List.forall_mem_singleton.mpr Timestamp.proper_epoch⟩ }
  have quoted : arrest.Expressible := {
    evidence := List.forall_mem_singleton.mpr ⟨by decide, by decide⟩
    milliseconds := by decide }
  have bare : notes.Expressible := {
    evidence := List.forall_mem_nil _
    milliseconds := by decide }
  have expressible : aggregate.Expressible := {
    total := by decide
    compliant := by decide
    nonCompliant := by decide
    errors := by decide
    reports := by
      intro report listed
      simp only [aggregate, ofReports, List.mem_cons, List.not_mem_nil, or_false] at listed
      rcases listed with rfl | rfl | rfl
      · exact quoted
      · trivial
      · exact bare
    milliseconds := by decide }
  refine ⟨dated, (reread_exactly_if_expressible.1 aggregate dated).read expressible, ?_⟩
  have infinite : ¬ endless.Expressible := by
    intro finite
    exact absurd finite.milliseconds (by decide)
  exact (reread_exactly_if_expressible.2 endless Timestamp.proper_epoch).refused infinite

end Aggregate

end Compliance
