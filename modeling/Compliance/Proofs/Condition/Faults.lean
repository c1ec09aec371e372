import Compliance.Proofs.Condition.Compile

/-!
The nodes of a condition tree that are at fault, and what becomes of the first of them when the tree
is written down and compiled again. The check reports the first one, and so does compiling; only a
disjunction without branches is taken for one without phrases, since the two are written alike.
-/

namespace Compliance

def unsearchable (phrases : List String) : Bool :=
  phrases.isEmpty || phrases.any isBlankText

theorem unsearchable_eq_false_iff (phrases : List String) :
    unsearchable phrases = false ↔ Searchable phrases := by
  simp [unsearchable, Searchable]

/-- What the fault becomes when the tree is compiled from its written form. -/
def ConditionFault.rewritten : ConditionFault → ConditionFault
  | noChildren .disjunction => noPhrases .disjunction
  | other => other

theorem rewritten_checkPhrases {owner : PhraseOwner} {phrases : List String}
    {fault : ConditionFault} (refused : checkPhrases owner phrases = .error fault) :
    fault.rewritten = fault := by
  rw [checkPhrases] at refused
  split at refused
  · cases refused
    rfl
  · split at refused
    · cases refused
      rfl
    · cases refused

theorem Element.rewritten_check {leaf : Element} {fault : ConditionFault}
    (refused : leaf.check = .error fault) : fault.rewritten = fault := by
  rw [Element.check] at refused
  split at refused
  · cases refused
    rfl
  · exact rewritten_checkPhrases refused

namespace Condition

mutual

/-- The nodes at fault themselves, from left to right. -/
def faultyNodes : Condition → List Condition
  | element leaf =>
      if isBlankText leaf.name || unsearchable leaf.phrases then [element leaf] else []
  | anyPhrase phrases => if unsearchable phrases then [anyPhrase phrases] else []
  | allOf children => if children.isEmpty then [allOf []] else faultyAmong children
  | anyOf children => if children.isEmpty then [anyOf []] else faultyAmong children
  | noneOf children => if children.isEmpty then [noneOf []] else faultyAmong children
  | implies antecedent consequent => antecedent.faultyNodes ++ consequent.faultyNodes

def faultyAmong : List Condition → List Condition
  | [] => []
  | child :: rest => child.faultyNodes ++ faultyAmong rest

end

theorem faultyAmong_eq_flatMap (children : List Condition) :
    faultyAmong children = children.flatMap faultyNodes := by
  induction children with
  | nil => rfl
  | cons child rest ih => rw [faultyAmong, ih, List.flatMap_cons]

theorem faultyNodes_eq_nil_iff (condition : Condition) :
    condition.faultyNodes = [] ↔ condition.Sound := by
  induction condition using Condition.induction with
  | element leaf =>
      rw [faultyNodes, Sound, ← unsearchable_eq_false_iff]
      simp
  | anyPhrase phrases =>
      rw [faultyNodes, Sound, ← unsearchable_eq_false_iff]
      simp
  | allOf children ih | anyOf children ih | noneOf children ih =>
      rw [faultyNodes, Sound, faultyAmong_eq_flatMap]
      cases children with
      | nil => simp
      | cons child rest =>
          simp only [List.isEmpty_cons, Bool.false_eq_true, if_false, List.flatMap_eq_nil_iff]
          simpa using forall₂_congr ih
  | implies antecedent consequent ihAntecedent ihConsequent =>
      rw [faultyNodes, Sound, List.append_eq_nil_iff, ihAntecedent, ihConsequent]

theorem mem_faultyNodes_cases {condition node : Condition}
    (member : node ∈ condition.faultyNodes) :
    (∃ leaf, node = element leaf) ∨ (∃ phrases, node = anyPhrase phrases) ∨
      node = allOf [] ∨ node = anyOf [] ∨ node = noneOf [] := by
  induction condition using Condition.induction with
  | element leaf =>
      rw [faultyNodes] at member
      split at member
      · exact .inl ⟨leaf, List.mem_singleton.mp member⟩
      · simp at member
  | anyPhrase phrases =>
      rw [faultyNodes] at member
      split at member
      · exact .inr (.inl ⟨phrases, List.mem_singleton.mp member⟩)
      · simp at member
  | allOf children ih | anyOf children ih | noneOf children ih =>
      rw [faultyNodes, faultyAmong_eq_flatMap] at member
      split at member
      · rw [List.mem_singleton.mp member]
        simp
      · obtain ⟨child, listed, inside⟩ := List.mem_flatMap.mp member
        exact ih child listed inside
  | implies antecedent consequent ihAntecedent ihConsequent =>
      rw [faultyNodes] at member
      rcases List.mem_append.mp member with first | second
      · exact ihAntecedent first
      · exact ihConsequent second

theorem checkSiblings_eq_first {children : List Condition}
    (each : ∀ child ∈ children, child.check = child.faultyNodes.head?.elim (.ok ()) check) :
    checkSiblings children = (faultyAmong children).head?.elim (.ok ()) check := by
  induction children with
  | nil => rfl
  | cons child rest ih =>
      obtain ⟨first, others⟩ := List.forall_mem_cons.mp each
      rw [checkSiblings, faultyAmong, List.head?_append]
      cases checked : child.check with
      | ok _ =>
          have nothing := (faultyNodes_eq_nil_iff child).mpr ((check_eq_ok_iff child).mp checked)
          rw [nothing]
          exact ih others
      | error fault =>
          rw [checked] at first
          cases found : child.faultyNodes.head? with
          | none => simp [found] at first
          | some node => simpa [found] using first

theorem check_eq_first_of_leaf {condition : Condition}
    (leaf : condition.faultyNodes = [] ∨ condition.faultyNodes = [condition]) :
    condition.check = condition.faultyNodes.head?.elim (.ok ()) check := by
  rcases leaf with nothing | itself
  · rw [nothing]
    exact (check_eq_ok_iff condition).mpr ((faultyNodes_eq_nil_iff condition).mp nothing)
  · rw [itself]
    rfl

theorem checkChildren_cons (operator : Operator) (child : Condition) (rest : List Condition) :
    checkChildren operator (child :: rest) = checkSiblings (child :: rest) := by
  rw [checkChildren, checkSiblings]

theorem check_implies (antecedent consequent : Condition) :
    (implies antecedent consequent).check = checkSiblings [antecedent, consequent] := by
  rw [check, checkSiblings, checkSiblings, checkSiblings]
  cases antecedent.check <;> cases consequent.check <;> rfl

/-- The check reports what is wrong with the first node at fault. -/
theorem check_eq_first (condition : Condition) :
    condition.check = condition.faultyNodes.head?.elim (.ok ()) check := by
  induction condition using Condition.induction with
  | element leaf =>
      apply check_eq_first_of_leaf
      rw [faultyNodes]
      split <;> simp
  | anyPhrase phrases =>
      apply check_eq_first_of_leaf
      rw [faultyNodes]
      split <;> simp
  | allOf children ih | anyOf children ih | noneOf children ih =>
      cases children with
      | nil => rfl
      | cons child rest =>
          rw [check, checkChildren_cons, faultyNodes]
          exact checkSiblings_eq_first ih
  | implies antecedent consequent ihAntecedent ihConsequent =>
      have each : ∀ half ∈ [antecedent, consequent],
          half.check = half.faultyNodes.head?.elim (.ok ()) check := by
        simpa using ⟨ihAntecedent, ihConsequent⟩
      rw [check_implies, checkSiblings_eq_first each, faultyNodes, faultyAmong_eq_flatMap]
      simp

theorem check_of_first {condition node : Condition}
    (first : condition.faultyNodes.head? = some node) : condition.check = node.check := by
  rw [check_eq_first, first]
  rfl

theorem check_eq_noChildren_disjunction_iff (condition : Condition) :
    condition.check = .error (.noChildren .disjunction) ↔
      condition.faultyNodes.head? = some (anyOf []) := by
  constructor
  · intro refused
    cases first : condition.faultyNodes.head? with
    | none => simp [check_eq_first, first] at refused
    | some node =>
        rw [check_of_first first] at refused
        rcases mem_faultyNodes_cases (List.mem_of_head? first) with
          ⟨leaf, rfl⟩ | ⟨phrases, rfl⟩ | rfl | rfl | rfl
        · exact absurd (Element.rewritten_check refused) (by decide)
        · exact absurd (rewritten_checkPhrases refused) (by decide)
        · cases refused
        · rfl
        · cases refused
  · intro first
    rw [check_of_first first]
    rfl

end Condition

end Compliance
