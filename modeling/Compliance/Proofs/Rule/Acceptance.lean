import Compliance.Proofs.Registry.Isolation
import Compliance.Proofs.Rule.Rereading
import Compliance.Proofs.Text.Normal

/-!
Which rules the validation lets through, told node by node. It stops at the first fault of a tree,
but a rule passes just if nothing is missing from any node, however deep; so each phrase that a
registry holds has something left in its normal form.
-/

namespace Compliance

/-- Something is written there other than white space. -/
def Legible (text : String) : Prop := ∃ c ∈ text.toList, Text.isBlank c = false

theorem isBlankText_eq_false_iff (text : String) : isBlankText text = false ↔ Legible text := by
  simp [isBlankText, Text.allBlank, Legible]

theorem searchable_iff_legible (phrases : List String) :
    Searchable phrases ↔ phrases ≠ [] ∧ ∀ phrase ∈ phrases, Legible phrase := by
  simp only [Searchable, isBlankText_eq_false_iff]

namespace Condition

mutual

def nodes : Condition → List Condition
  | element leaf => [element leaf]
  | anyPhrase phrases => [anyPhrase phrases]
  | allOf children => allOf children :: nodesAmong children
  | anyOf children => anyOf children :: nodesAmong children
  | noneOf children => noneOf children :: nodesAmong children
  | implies antecedent consequent =>
      implies antecedent consequent :: (antecedent.nodes ++ consequent.nodes)

def nodesAmong : List Condition → List Condition
  | [] => []
  | child :: rest => child.nodes ++ nodesAmong rest

end

/-- Nothing is missing from the node itself. What is below it is not looked at. -/
def Complete : Condition → Prop
  | element leaf =>
      Legible leaf.name ∧ leaf.phrases ≠ [] ∧ ∀ phrase ∈ leaf.phrases, Legible phrase
  | anyPhrase phrases => phrases ≠ [] ∧ ∀ phrase ∈ phrases, Legible phrase
  | allOf children | anyOf children | noneOf children => children ≠ []
  | implies _ _ => True

theorem nodesAmong_eq_flatMap (children : List Condition) :
    nodesAmong children = children.flatMap nodes := by
  induction children with
  | nil => rfl
  | cons child rest ih => rw [nodesAmong, ih, List.flatMap_cons]

theorem forall_mem_nodesAmong_iff (holds : Condition → Prop) (children : List Condition) :
    (∀ node ∈ nodesAmong children, holds node) ↔
      ∀ child ∈ children, ∀ node ∈ child.nodes, holds node := by
  rw [nodesAmong_eq_flatMap]
  constructor
  · intro all child listed node inside
    exact all node (List.mem_flatMap.mpr ⟨child, listed, inside⟩)
  · intro each node member
    obtain ⟨child, listed, inside⟩ := List.mem_flatMap.mp member
    exact each child listed node inside

theorem sound_iff_complete (condition : Condition) :
    condition.Sound ↔ ∀ node ∈ condition.nodes, node.Complete := by
  induction condition using Condition.induction with
  | element leaf =>
      rw [Sound, nodes, List.forall_mem_singleton, Complete, isBlankText_eq_false_iff,
        searchable_iff_legible]
  | anyPhrase phrases =>
      rw [Sound, nodes, List.forall_mem_singleton, Complete, searchable_iff_legible]
  | allOf children ih | anyOf children ih | noneOf children ih =>
      rw [Sound, nodes, List.forall_mem_cons, Complete, forall_mem_nodesAmong_iff]
      exact and_congr_right fun _ => forall₂_congr ih
  | implies antecedent consequent ihAntecedent ihConsequent =>
      rw [Sound, nodes, List.forall_mem_cons, List.forall_mem_append, ihAntecedent, ihConsequent,
        Complete, true_and]

end Condition

namespace Rule

/-- A rule from which nothing is missing: neither in itself, nor in an outcome, nor in any node of
its condition. -/
structure Complete (rule : Rule) : Prop where
  id : Legible rule.id
  source : Legible rule.source
  onSuccess : rule.onSuccess.Labelled
  onFailure : rule.onFailure.Labelled
  condition : ∀ node ∈ rule.condition.nodes, node.Complete

theorem wellFormed_iff_complete (rule : Rule) : rule.WellFormed ↔ rule.Complete := by
  constructor
  · rintro ⟨id, source, condition, onSuccess, onFailure⟩
    exact ⟨(isBlankText_eq_false_iff _).mp id, (isBlankText_eq_false_iff _).mp source, onSuccess,
      onFailure, rule.condition.sound_iff_complete.mp condition⟩
  · rintro ⟨id, source, onSuccess, onFailure, condition⟩
    exact ⟨(isBlankText_eq_false_iff _).mpr id, (isBlankText_eq_false_iff _).mpr source,
      rule.condition.sound_iff_complete.mpr condition, onSuccess, onFailure⟩

/-- The validation gives back a complete rule as it is, and nothing else whatever; a rule that is
not complete it turns down by its id. -/
structure Judged (rule : Rule) : Prop where
  accepted : ∀ result, rule.validated = .ok result ↔ rule.Complete ∧ result = rule
  refused : ¬ rule.Complete →
    ∃ reason, rule.validated = .error (.invalidRule (shownId rule.id) reason)

theorem judged (rule : Rule) : rule.Judged where
  accepted result := by
    rw [← wellFormed_iff_complete, ← valid_iff_wellFormed]
    constructor
    · intro passed
      obtain ⟨same, valid⟩ := eq_of_validated passed
      exact ⟨valid, same⟩
    · rintro ⟨valid, rfl⟩
      exact valid
  refused incomplete := by
    cases checked : rule.validated with
    | ok result =>
        obtain ⟨_, valid⟩ := eq_of_validated checked
        rw [valid_iff_wellFormed, wellFormed_iff_complete] at valid
        exact absurd valid incomplete
    | error refusal =>
        obtain ⟨reason, rfl⟩ := validated_eq_error checked
        exact ⟨reason, rfl⟩

theorem Valid.normalForm_ne_empty {rule : Rule} (valid : rule.Valid) {phrase : String}
    (written : phrase ∈ rule.condition.phrases) : normalForm phrase ≠ "" := by
  rw [Ne, normalForm_eq_empty_iff, valid.sound.phrases_visible phrase written]
  exact Bool.false_ne_true

end Rule

/-- Every rule is judged by its nodes, and no registry, whatever was done to it, holds a rule with a
phrase of which nothing is left in its normal form. -/
theorem Rule.validated_exactly_if_complete :
    (∀ rule : Rule, rule.Judged) ∧
      ∀ operations, ∀ entry ∈ (Registry.run operations).rules,
        ∀ phrase ∈ entry.2.condition.phrases, normalForm phrase ≠ "" := by
  refine ⟨judged, ?_⟩
  intro operations entry stored phrase written
  exact ((Registry.wellKept_run operations).valid entry stored).normalForm_ne_empty written

/-- A blank phrase deep in a tree: below a negation, on the far side of an implication. -/
def Condition.hiddenBlank : Condition :=
  .noneOf [.implies (.anyPhrase ["arrested"]) (.allOf [.anyPhrase ["cautioned", "\u00a0"]])]

theorem Rule.validated_exactly_if_complete_nested :
    (∃ reason, { Registry.cautionRule "c10" with condition := Condition.hiddenBlank }.validated =
        .error (.invalidRule "c10" reason)) ∧
      (Registry.run [.register (Registry.cautionRule "c10")]).rules =
        [("c10", Registry.cautionRule "c10")] ∧
      normalForm "cautioned" ≠ "" := by
  obtain ⟨judged, searchable⟩ := validated_exactly_if_complete
  refine ⟨(judged _).refused ?_, rfl, ?_⟩
  · intro complete
    obtain ⟨_, legible⟩ := complete.condition (.anyPhrase ["cautioned", "\u00a0"])
      (by simp [Condition.hiddenBlank, Condition.nodes, Condition.nodesAmong])
    obtain ⟨c, written, visible⟩ := legible "\u00a0" (by simp)
    obtain rfl := List.mem_singleton.mp written
    exact absurd visible (by decide)
  · exact searchable [.register (Registry.cautionRule "c10")] ("c10", Registry.cautionRule "c10")
      (List.mem_singleton_self _) "cautioned" (List.mem_singleton_self _)

end Compliance
