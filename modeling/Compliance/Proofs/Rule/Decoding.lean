import Compliance.Proofs.Condition.Written
import Compliance.Rule

/-!
Rules are decoded from what they are written as if their conditions are sound, and valid rules pass
the check again.
-/

namespace Compliance

theorem Severity.decode_toJson (severity : Severity) (layer : Layer) :
    decode layer severity.toJson = .ok severity := by
  have known : spellings.lookup severity.name = some severity :=
    lookup_spellings (by decide) (by decide) (by cases severity <;> decide)
  rw [decode, toJson, Decode.variant, Decode.variant.named, known]

theorem Severity.decode_optional_toJson (severity : Severity) (layer : Layer) :
    Decode.option decode layer severity.toJson.sorted = .ok (some severity) :=
  Decode.option_of_ok (by simp [toJson, Json.sorted]) (severity.decode_toJson layer)

theorem RuleKind.decode_toJson (kind : RuleKind) (layer : Layer) :
    decode layer kind.toJson = .ok kind := by
  have known : spellings.lookup kind.name = some kind :=
    lookup_spellings (by decide) (by decide) (by cases kind <;> decide)
  rw [decode, toJson, Decode.variant, Decode.variant.named, known]

namespace Outcome

def fields (outcome : Outcome) : List (String × Option Json) :=
  [("result", some (.string outcome.result)), ("message", some (.string outcome.message)),
    ("severity", outcome.severity.map Severity.toJson),
    ("consequence", outcome.consequence.map .string), ("remedy", outcome.remedy.map .string)]

theorem fields_distinct (outcome : Outcome) : (outcome.fields.map Prod.fst).Nodup := by
  change ["result", "message", "severity", "consequence", "remedy"].Nodup
  decide

theorem toJson_eq (outcome : Outcome) :
    outcome.toJson = .object (presentMembers outcome.fields) := by
  simp [toJson, fields, presentMembers, optionalMember, Option.toList_map, Function.comp_def]

theorem decode_toJson (outcome : Outcome) (layer : Layer) :
    decode layer outcome.toJson.sorted = .ok outcome := by
  obtain ⟨inOrder, same, holds⟩ := sorted_presentMembers outcome.fields_distinct
  rw [toJson_eq, same]
  refine Fields.record_of_named (Fields.named_seq (Fields.named_seq (Fields.named_seq
    (Fields.named_seq (Fields.named_map Outcome.mk ?result) ?message) ?severity) ?consequence)
    ?remedy)
  case result => exact Fields.named_field_of_held (holds ["result"] _ rfl) rfl
  case message => exact Fields.named_field_of_held (holds ["message"] _ rfl) rfl
  case severity =>
    exact Fields.named_optional (holds ["severity"] _ rfl) fun severity _ =>
      severity.decode_optional_toJson layer
  case consequence => exact Fields.named_optional (holds ["consequence"] _ rfl) fun _ _ => rfl
  case remedy => exact Fields.named_optional (holds ["remedy"] _ rfl) fun _ _ => rfl

theorem numberless_toJson (outcome : Outcome) : outcome.toJson.Numberless := by
  rw [toJson_eq]
  refine numberless_presentMembers ?_
  intro key value member
  simp only [fields, List.mem_cons, Prod.mk.injEq, List.not_mem_nil, or_false] at member
  rcases member with ⟨_, written⟩ | ⟨_, written⟩ | ⟨_, written⟩ | ⟨_, written⟩ | ⟨_, written⟩
  · exact Option.some.inj written ▸ .string _
  · exact Option.some.inj written ▸ .string _
  · exact numberless_optional written fun severity _ => .string severity.name
  · exact numberless_optional written fun text _ => .string text
  · exact numberless_optional written fun text _ => .string text

theorem height_toJson (outcome : Outcome) : outcome.toJson.height = 1 := by
  obtain ⟨result, message, severity, consequence, remedy⟩ := outcome
  cases severity <;> cases consequence <;> cases remedy <;> rfl

end Outcome

namespace Rule

def fields (rule : Rule) : List (String × Option Json) :=
  [("id", some (.string rule.id)), ("source", some (.string rule.source)),
    ("kind", some rule.kind.toJson), ("description", rule.description.map .string),
    ("condition", some rule.condition.toJson), ("on_success", some rule.onSuccess.toJson),
    ("on_failure", some rule.onFailure.toJson)]

theorem fields_distinct (rule : Rule) : (rule.fields.map Prod.fst).Nodup := by
  change ["id", "source", "kind", "description", "condition", "on_success", "on_failure"].Nodup
  decide

theorem toJson_eq (rule : Rule) : rule.toJson = .object (presentMembers rule.fields) := by
  simp [toJson, fields, presentMembers, optionalMember, Option.toList_map, Function.comp_def]

theorem decode_toJson (rule : Rule) (layer : Layer) :
    decode layer rule.toJson.sorted =
      (Condition.decode layer rule.condition.toJson.sorted).map fun condition =>
        { rule with condition } := by
  obtain ⟨inOrder, same, holds⟩ := sorted_presentMembers rule.fields_distinct
  rw [toJson_eq, same]
  have circumstances : (Rule.mk <$> Fields.required "id" Decode.text
      <*> Fields.required "source" Decode.text
      <*> Fields.required "kind" RuleKind.decode
      <*> Fields.optional "description" Decode.text).named layer inOrder =
        .ok (Rule.mk rule.id rule.source rule.kind rule.description) := by
    refine Fields.named_seq (Fields.named_seq (Fields.named_seq (Fields.named_map Rule.mk ?id)
      ?source) ?kind) ?description
    case id => exact Fields.named_field_of_held (holds ["id"] _ rfl) rfl
    case source => exact Fields.named_field_of_held (holds ["source"] _ rfl) rfl
    case kind =>
      exact Fields.named_field_of_held (holds ["kind"] _ rfl) (rule.kind.decode_toJson layer)
    case description => exact Fields.named_optional (holds ["description"] _ rfl) fun _ _ => rfl
  have condition : (Fields.required "condition" Condition.decode).named layer inOrder =
      (Condition.decode layer rule.condition.toJson.sorted).mapError (.atKey "condition") :=
    Fields.named_of_held (holds ["condition"] _ rfl)
  have onSuccess : (Fields.field ["on_success", "onSuccess"] Outcome.decode none).named layer
      inOrder = .ok rule.onSuccess :=
    Fields.named_field_of_held (holds ["on_success", "onSuccess"] _ rfl)
      (rule.onSuccess.decode_toJson layer)
  have onFailure : (Fields.field ["on_failure", "onFailure"] Outcome.decode none).named layer
      inOrder = .ok rule.onFailure :=
    Fields.named_field_of_held (holds ["on_failure", "onFailure"] _ rfl)
      (rule.onFailure.decode_toJson layer)
  rw [decode, Decode.record, Fields.named_seq_right onFailure, Fields.named_seq_right onSuccess,
    Fields.named_seq_left circumstances, condition]
  cases Condition.decode layer rule.condition.toJson.sorted <;> rfl

theorem numberless_toJson (rule : Rule) : rule.toJson.Numberless := by
  rw [toJson_eq]
  refine numberless_presentMembers ?_
  intro key value member
  simp only [fields, List.mem_cons, Prod.mk.injEq, List.not_mem_nil, or_false] at member
  rcases member with ⟨_, written⟩ | ⟨_, written⟩ | ⟨_, written⟩ | ⟨_, written⟩ | ⟨_, written⟩ |
    ⟨_, written⟩ | ⟨_, written⟩
  · exact Option.some.inj written ▸ .string _
  · exact Option.some.inj written ▸ .string _
  · exact Option.some.inj written ▸ .string _
  · exact numberless_optional written fun text _ => .string text
  · exact Option.some.inj written ▸ rule.condition.toAuthored.numberless_toJson
  · exact Option.some.inj written ▸ rule.onSuccess.numberless_toJson
  · exact Option.some.inj written ▸ rule.onFailure.numberless_toJson

theorem height_toJson {rule : Rule} (sound : rule.condition.Sound) :
    rule.toJson.height = rule.condition.nesting + 1 := by
  have deeper := rule.condition.nesting_pos
  rw [toJson]
  cases rule.description <;>
    simp only [optionalMember, Option.map_none, Option.map_some, Option.toList_none,
      Option.toList_some, List.append_nil, List.cons_append, List.nil_append, Json.height,
      Json.membersHeight, RuleKind.toJson, sound.height_toJson, Outcome.height_toJson] <;> omega

def Valid (rule : Rule) : Prop := rule.validated = .ok rule

theorem eq_of_validated {rule valid : Rule} (passed : rule.validated = .ok valid) :
    valid = rule ∧ rule.Valid := by
  unfold Valid
  rw [validated] at passed ⊢
  split at passed
  · exact ⟨(Except.ok.inj passed).symm, rfl⟩
  · simp at passed

theorem Valid.sound {rule : Rule} (valid : rule.Valid) : rule.condition.Sound := by
  rw [← Condition.check_eq_ok_iff]
  rw [Valid, validated] at valid
  split at valid
  · rename_i nothing
    simp only [complaints, List.append_eq_nil_iff, conditionComplaints] at nothing
    split at nothing
    · assumption
    · simp at nothing
  · simp at valid

theorem Valid.ofJson_toJson {rule : Rule} (valid : rule.Valid) :
    ofJson rule.toJson.sorted = .ok rule := by
  rw [ofJson, decode_toJson, valid.sound.decode_toJson]
  exact valid

end Rule

end Compliance
