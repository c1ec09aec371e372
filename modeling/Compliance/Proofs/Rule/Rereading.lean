import Compliance.Proofs.Rule.Validity

/-!
Reading back what rules and conditions are written as. Valid rules and sound trees are got back as
they were, and all others are turned down. The reason given for a tree is that of the check, unless
its first fault is a disjunction without branches, whose written form has nothing that tells
branches from phrases.
-/

namespace Compliance

theorem ConditionFault.rewritten_eq {fault : ConditionFault}
    (other : fault ≠ .noChildren .disjunction) : fault.rewritten = fault := by
  unfold rewritten
  split
  · exact absurd rfl other
  · rfl

/-- A tree is got back from its written form if the check accepts it, and else is turned down for
the same reason, as far as the written form can tell. -/
structure Condition.Rereads (condition : Condition) : Prop where
  first : condition.check = condition.faultyNodes.head?.elim (.ok ()) check
  accepted : condition.check = .ok () → condition.toAuthored.compile = .ok condition
  refused : ∀ fault, condition.check = .error fault →
    ∃ found, condition.toAuthored.compile = .error found ∧
      (condition.faultyNodes.head? ≠ some (.anyOf []) → found.message = fault.message) ∧
      (condition.faultyNodes.head? = some (.anyOf []) →
        fault.message = "OR node has no conditions" ∧
        found.message = "OR node declares no search phrases")
  decoded : ∀ layer, Condition.decode layer condition.toJson.sorted =
    condition.toAuthored.compile.mapError fun fault => .refused fault.message

theorem Condition.rereads (condition : Condition) : condition.Rereads where
  first := condition.check_eq_first
  accepted passed := by rw [compile_toAuthored, reread, passed]
  refused fault checked := by
    have compiled : condition.toAuthored.compile = .error fault.rewritten := by
      rw [compile_toAuthored, reread, checked]
    refine ⟨fault.rewritten, compiled, ?_, ?_⟩
    · intro other
      rw [Ne, ← check_eq_noChildren_disjunction_iff, checked, Except.error.injEq] at other
      rw [ConditionFault.rewritten_eq other]
    · intro first
      rw [← check_eq_noChildren_disjunction_iff, checked, Except.error.injEq] at first
      subst first
      exact ⟨rfl, rfl⟩
  decoded layer := by rw [decode_toJson, compile_toAuthored]

namespace Rule

theorem blamedId_toJson (rule : Rule) : blamedId rule.toJson.sorted = shownId rule.id := by
  obtain ⟨inOrder, same, holds⟩ := sorted_presentMembers rule.fields_distinct
  have id : Keyed.get? "id" inOrder = some (.string rule.id) := (holds ["id"] _ rfl).get?_eq
  rw [toJson_eq, same, blamedId, Json.member?, id]
  rfl

theorem ofJson_toJson (rule : Rule) :
    ofJson rule.toJson.sorted = match rule.condition.reread with
      | .ok _ => rule.validated
      | .error fault => .error (.invalidRule (shownId rule.id) fault.message) := by
  rw [ofJson, decode_toJson, Condition.decode_toJson, blamedId_toJson, Condition.reread]
  cases rule.condition.check <;> rfl

/-- A rule is got back from its written form if it is valid, and else is turned down by its id. -/
structure Rereads (rule : Rule) : Prop where
  accepted : ∀ valid, rule.validated = .ok valid →
    valid = rule ∧ ofJson rule.toJson.sorted = .ok rule
  refused : ∀ refusal, rule.validated = .error refusal →
    ∃ reason, ofJson rule.toJson.sorted = .error (.invalidRule (shownId rule.id) reason)

theorem validated_eq_error {rule : Rule} {refusal : Refusal}
    (refused : rule.validated = .error refusal) :
    ∃ reason, refusal = .invalidRule (shownId rule.id) reason := by
  rw [validated] at refused
  split at refused
  · cases refused
  · exact ⟨_, (Except.error.inj refused).symm⟩

theorem rereads (rule : Rule) : rule.Rereads where
  accepted valid passed := by
    obtain ⟨same, checked⟩ := eq_of_validated passed
    exact ⟨same, checked.ofJson_toJson⟩
  refused refusal turnedDown := by
    obtain ⟨reason, rfl⟩ := validated_eq_error turnedDown
    rw [ofJson_toJson]
    cases rule.condition.reread with
    | ok _ => exact ⟨reason, turnedDown⟩
    | error fault => exact ⟨fault.message, rfl⟩

/-- Writing and reading back is the identity on valid rules and sound trees, and on these alone. -/
theorem reread_exactly_if_valid :
    (∀ rule : Rule, rule.Rereads) ∧ ∀ condition : Condition, condition.Rereads :=
  ⟨rereads, Condition.rereads⟩

end Rule

end Compliance
