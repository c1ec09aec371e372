import Compliance.Evaluation
import Compliance.Proofs.Decode.Returns
import Compliance.Proofs.Rule.Decoding
import Compliance.Proofs.Time.Rereading
import Mathlib.Tactic.MkIffOfInductiveProp

/-!
Evaluations read back from what they are written as. Floating point numbers have to be finite for
that, and counts must not be more than a word holds.
-/

namespace Compliance

theorem Timestamp.Proper.decode_toJson {time : Timestamp} (proper : time.Proper) (layer : Layer) :
    Timestamp.decode layer time.toJson.sorted = .ok time := by
  have plain : time.toJson.sorted = .string time.text := rfl
  rw [plain, decode, ofText_text proper]
  rfl

namespace Evidence

@[mk_iff]
structure Expressible (evidence : Evidence) : Prop where
  sentenceIndex : evidence.sentenceIndex < wordCount
  confidence : evidence.confidence.isFinite = true

def fields (evidence : Evidence) : List (String × Option Json) :=
  [("phrase", some (.string evidence.phrase)), ("sentence", some (.string evidence.sentence)),
    ("sentence_index", some (.integer evidence.sentenceIndex)),
    ("context", some (.string evidence.context)),
    ("confidence", some (.ofFloat evidence.confidence))]

theorem fields_distinct (evidence : Evidence) : (evidence.fields.map Prod.fst).Nodup := by
  change ["phrase", "sentence", "sentence_index", "context", "confidence"].Nodup
  decide

theorem toJson_eq (evidence : Evidence) :
    evidence.toJson = .object (presentMembers evidence.fields) := rfl

theorem returns_decode (evidence : Evidence) (layer : Layer) :
    Returns (decode layer evidence.toJson.sorted) evidence.Expressible evidence := by
  obtain ⟨inOrder, same, holds⟩ := holding_of_sorted evidence.fields_distinct
  rw [toJson_eq, same]
  apply Returns.congr (.record (.seq (.seq (.seq (.seq (.make mk ?phrase) ?sentence) ?sentenceIndex)
    ?context) ?confidence)) ?given
  case phrase => exact .field (holds "phrase" _ rfl) (.of_ok rfl)
  case sentence => exact .field (holds "sentence" _ rfl) (.of_ok rfl)
  case sentenceIndex => exact .field (holds "sentence_index" _ rfl) (.count layer _)
  case context => exact .field (holds "context" _ rfl) (.of_ok rfl)
  case confidence => exact .field (holds "confidence" _ rfl) (.float layer _)
  case given => simp [expressible_iff]

end Evidence

namespace ResolvedOutcome

def fields (outcome : ResolvedOutcome) : List (String × Option Json) :=
  outcome.toOutcome.fields ++ [("details", some (.string outcome.details))]

theorem fields_distinct (outcome : ResolvedOutcome) : (outcome.fields.map Prod.fst).Nodup := by
  change ["result", "message", "severity", "consequence", "remedy", "details"].Nodup
  decide

theorem toJson_eq (outcome : ResolvedOutcome) :
    outcome.toJson = .object (presentMembers outcome.fields) := by
  simp [toJson, fields, Outcome.fields, presentMembers, optionalMember, Option.toList_map,
    Function.comp_def]

theorem decode_toJson (outcome : ResolvedOutcome) (layer : Layer) :
    decode layer outcome.toJson.sorted = .ok outcome := by
  obtain ⟨inOrder, same, holds⟩ := holding_of_sorted outcome.fields_distinct
  rw [toJson_eq, same]
  refine Fields.record_of_named (Fields.named_seq (Fields.named_map mk (Fields.named_seq
    (Fields.named_seq (Fields.named_seq (Fields.named_seq (Fields.named_map Outcome.mk ?result)
    ?message) ?severity) ?consequence) ?remedy)) ?details)
  case result => exact Fields.named_field_of_held (holds "result" _ rfl) rfl
  case message => exact Fields.named_field_of_held (holds "message" _ rfl) rfl
  case severity =>
    exact Fields.named_optional (holds "severity" _ rfl) fun severity _ =>
      severity.decode_optional_toJson layer
  case consequence => exact Fields.named_optional (holds "consequence" _ rfl) fun _ _ => rfl
  case remedy => exact Fields.named_optional (holds "remedy" _ rfl) fun _ _ => rfl
  case details => exact Fields.named_field_of_held (holds "details" _ rfl) rfl

end ResolvedOutcome

namespace Evaluation

/-- All floating point numbers are finite, and no sentence has an index beyond a word. -/
@[mk_iff]
structure Expressible (evaluation : Evaluation) : Prop where
  evidence : ∀ evidence ∈ evaluation.evidence, evidence.Expressible
  milliseconds : evaluation.milliseconds.isFinite = true

def fields (evaluation : Evaluation) : List (String × Option Json) :=
  evaluation.members.map fun member => (member.1, some member.2)

theorem members_eq (evaluation : Evaluation) :
    evaluation.members = presentMembers evaluation.fields := rfl

theorem fields_distinct (evaluation : Evaluation) : (evaluation.fields.map Prod.fst).Nodup := by
  change ["rule_id", "source", "kind", "compliant", "vacuously_true", "evidence", "missing",
    "outcome", "duration_ms", "timestamp"].Nodup
  decide

theorem returns_of_holding {evaluation : Evaluation} (proper : evaluation.time.Proper)
    (layer : Layer) {members : List (String × Json)} (holds : Holding evaluation.fields members) :
    Returns (decode layer (.object members)) evaluation.Expressible evaluation := by
  apply Returns.congr (.record (.seq (.seq (.seq (.seq (.seq (.seq (.seq (.seq (.seq
    (.make mk ?ruleId) ?source) ?kind) ?compliant) ?vacuous) ?evidence) ?missing) ?outcome)
    ?milliseconds) ?time)) ?given
  case ruleId => exact .field (holds "rule_id" _ rfl) (.of_ok rfl)
  case source => exact .field (holds "source" _ rfl) (.of_ok rfl)
  case kind => exact .field (holds "kind" _ rfl) (.of_ok (evaluation.kind.decode_toJson layer))
  case compliant => exact .field (holds "compliant" _ rfl) (.of_ok rfl)
  case vacuous => exact .field (holds "vacuously_true" _ rfl) (.of_ok rfl)
  case evidence =>
    exact .field (holds "evidence" _ rfl) (.list fun found _ => found.returns_decode layer)
  case missing => exact .field (holds "missing" _ rfl) (.list fun _ _ => .of_ok rfl)
  case outcome =>
    exact .field (holds "outcome" _ rfl) (.of_ok (evaluation.outcome.decode_toJson layer))
  case milliseconds => exact .field (holds "duration_ms" _ rfl) (.float layer _)
  case time => exact .field (holds "timestamp" _ rfl) (.of_ok (proper.decode_toJson layer))
  case given => simp [expressible_iff]

theorem returns_decode {evaluation : Evaluation} (proper : evaluation.time.Proper)
    (layer : Layer) :
    Returns (decode layer evaluation.toJson.sorted) evaluation.Expressible evaluation := by
  obtain ⟨inOrder, same, holds⟩ := holding_of_sorted evaluation.fields_distinct
  rw [toJson, members_eq, same]
  exact returns_of_holding proper layer holds

end Evaluation

end Compliance
