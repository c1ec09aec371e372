import Compliance.Proofs.Rule.Decoding

/-!
What the validation of rules accepts: a rule with an id and a source that are not blank, a sound
condition, and a label and a message in each of its outcomes.
-/

namespace Compliance

structure Outcome.Labelled (outcome : Outcome) : Prop where
  result : outcome.result ≠ ""
  message : outcome.message ≠ ""

/-- What a rule has to be, said without the complaints. -/
structure Rule.WellFormed (rule : Rule) : Prop where
  id : isBlankText rule.id = false
  source : isBlankText rule.source = false
  condition : rule.condition.Sound
  onSuccess : rule.onSuccess.Labelled
  onFailure : rule.onFailure.Labelled

theorem Outcome.complaints_eq_nil_iff (field : String) (outcome : Outcome) :
    outcome.complaints field = [] ↔ outcome.Labelled := by
  have parts : outcome.complaints field = [] ↔ outcome.result ≠ "" ∧ outcome.message ≠ "" := by
    simp [complaints]
  rw [parts]
  exact ⟨fun both => ⟨both.1, both.2⟩, fun labelled => ⟨labelled.result, labelled.message⟩⟩

namespace Rule

theorem blankComplaints_eq_nil_iff (field value : String) :
    blankComplaints field value = [] ↔ isBlankText value = false := by
  simp [blankComplaints]

theorem conditionComplaints_eq_nil_iff (condition : Condition) :
    conditionComplaints condition = [] ↔ condition.Sound := by
  rw [← Condition.check_eq_ok_iff, conditionComplaints]
  cases condition.check <;> simp

theorem outcomeComplaints_eq_nil_iff (field : String) (outcome : Outcome) :
    outcomeComplaints field outcome = [] ↔ outcome.Labelled := by
  rw [← Outcome.complaints_eq_nil_iff field, outcomeComplaints]
  cases outcome.complaints field <;> simp

theorem valid_iff_complaints (rule : Rule) : rule.Valid ↔ rule.complaints = [] := by
  rw [Valid, validated]
  cases rule.complaints <;> simp

theorem valid_iff_wellFormed (rule : Rule) : rule.Valid ↔ rule.WellFormed := by
  rw [valid_iff_complaints, complaints]
  simp only [List.append_eq_nil_iff, conditionComplaints_eq_nil_iff, blankComplaints_eq_nil_iff,
    outcomeComplaints_eq_nil_iff]
  constructor
  · rintro ⟨⟨⟨⟨condition, id⟩, onFailure⟩, onSuccess⟩, source⟩
    exact ⟨id, source, condition, onSuccess, onFailure⟩
  · rintro ⟨id, source, condition, onSuccess, onFailure⟩
    exact ⟨⟨⟨⟨condition, id⟩, onFailure⟩, onSuccess⟩, source⟩

theorem valid_of_validated {candidate rule : Rule} (passed : candidate.validated = .ok rule) :
    rule.Valid := by
  obtain ⟨rfl, valid⟩ := eq_of_validated passed
  exact valid

theorem valid_of_ofJson {definition : Json} {rule : Rule} (read : ofJson definition = .ok rule) :
    rule.Valid := by
  rw [ofJson] at read
  split at read
  · exact valid_of_validated read
  · simp at read

end Rule

end Compliance
