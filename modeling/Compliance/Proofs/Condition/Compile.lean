import Mathlib.Data.List.Forall2
import Compliance.Proofs.Condition.Sound
import Compliance.Proofs.Except

/-!
What compiling a written node can give. The node's operator decides, and without one its element;
the phrases among the entries are gathered apart from the compiled nodes, which keep their order.
-/

namespace Compliance.Authored

def nestedNodes (entries : List (String ⊕ Authored)) : List Authored :=
  entries.filterMap Sum.getRight?

theorem mem_barePhrases (phrase : String) (entries : List (String ⊕ Authored)) :
    phrase ∈ barePhrases entries ↔ .inl phrase ∈ entries := by
  simp [barePhrases, Sum.getLeft?_eq_some_iff]

theorem mem_nestedNodes (node : Authored) (entries : List (String ⊕ Authored)) :
    node ∈ nestedNodes entries ↔ .inr node ∈ entries := by
  simp [nestedNodes, Sum.getRight?_eq_some_iff]

theorem forall₂_of_compileNodes {entries : List (String ⊕ Authored)} {nodes : List Condition}
    (compiled : compileNodes entries = .ok nodes) :
    List.Forall₂ (fun written node => written.compile = .ok node) (nestedNodes entries) nodes := by
  induction entries generalizing nodes with
  | nil =>
      simp only [compileNodes, Except.ok.injEq] at compiled
      subst compiled
      exact List.Forall₂.nil
  | cons entry rest ih =>
      cases entry with
      | inl phrase => exact ih compiled
      | inr written =>
          simp only [compileNodes, bind, Except.bind, pure, Except.pure] at compiled
          split at compiled
          · simp at compiled
          · rename_i node first
            split at compiled
            · simp at compiled
            · rename_i others following
              simp only [Except.ok.injEq] at compiled
              subst compiled
              exact List.Forall₂.cons first (ih following)

theorem forall₂_nestedNodes {relates : Authored → Condition → Prop}
    {entries : List (String ⊕ Authored)} {nodes : List Condition}
    (compiled : compileNodes entries = .ok nodes)
    (each : ∀ written, .inr written ∈ entries →
      ∀ {node : Condition}, written.compile = .ok node → relates written node) :
    List.Forall₂ relates (nestedNodes entries) nodes := by
  have listed : ∀ written ∈ nestedNodes entries, .inr written ∈ entries :=
    fun written => (mem_nestedNodes written entries).mp
  have pairs := (List.forall₂_and_left _ _).mpr ⟨listed, forall₂_of_compileNodes compiled⟩
  exact pairs.imp fun written node pair => each written pair.1 pair.2

/-- The ways in which a node compiles, as far as its own level goes. -/
inductive Compiled (authored : Authored) : Condition → Prop
  | element {name : String} (bare : authored.operator = none)
      (named : authored.element = some name) :
      Compiled authored (.element
        { name, phrases := authored.options, required := authored.required.getD true })
  | conjunction {spelling : String} {nodes : List Condition}
      (spelled : authored.operator = some spelling)
      (operator : Operator.ofText? spelling = some .conjunction)
      (compiled : compileNodes authored.entries = .ok nodes) :
      Compiled authored (Authored.conjunction (barePhrases authored.entries) nodes)
  | disjunction {spelling : String} {nodes : List Condition}
      (spelled : authored.operator = some spelling)
      (operator : Operator.ofText? spelling = some .disjunction)
      (compiled : compileNodes authored.entries = .ok nodes) :
      Compiled authored (Authored.disjunction (barePhrases authored.entries) nodes)
  | exclusion {spelling : String} {nodes : List Condition}
      (spelled : authored.operator = some spelling)
      (operator : Operator.ofText? spelling = some .exclusion)
      (compiled : compileNodes authored.entries = .ok nodes) :
      Compiled authored (Authored.exclusion (barePhrases authored.entries) nodes)
  | implication {spelling : String} {premise conclusion : Authored}
      {antecedent consequent : Condition}
      (spelled : authored.operator = some spelling)
      (operator : Operator.ofText? spelling = some .implication)
      (first : authored.antecedent = some premise)
      (second : authored.consequent = some conclusion)
      (compiledFirst : premise.compile = .ok antecedent)
      (compiledSecond : conclusion.compile = .ok consequent) :
      Compiled authored (.implies antecedent consequent)

theorem sound_eq_ok_iff (candidate condition : Condition) :
    sound candidate = .ok condition ↔ candidate = condition ∧ candidate.Sound := by
  rw [← Condition.check_eq_ok_iff, sound]
  cases candidate.check <;> simp

theorem bind_sound_eq_ok {α : Type} {step : Except ConditionFault α} {join : α → Condition}
    {condition : Condition}
    (compiled : (step >>= fun value => sound (join value)) = .ok condition) :
    ∃ value, step = .ok value ∧ join value = condition ∧ condition.Sound := by
  obtain ⟨value, made, joined⟩ := (Except.bind_eq_ok_iff step _ condition).mp compiled
  obtain ⟨same, checked⟩ := (sound_eq_ok_iff (join value) condition).mp joined
  exact ⟨value, made, same, same ▸ checked⟩

section Operators

variable {authored : Authored} {spelling : String} (spelled : authored.operator = some spelling)
include spelled

theorem compile_of_spelled :
    authored.compile =
      match Operator.ofText? spelling with
      | none => .error (.unsupportedOperator spelling)
      | some .conjunction => compileNodes authored.entries >>= fun nodes =>
          sound (conjunction (barePhrases authored.entries) nodes)
      | some .disjunction => compileNodes authored.entries >>= fun nodes =>
          sound (disjunction (barePhrases authored.entries) nodes)
      | some .exclusion => compileNodes authored.entries >>= fun nodes =>
          sound (exclusion (barePhrases authored.entries) nodes)
      | some .implication =>
          match authored.antecedent, authored.consequent with
          | none, _ => .error .noAntecedent
          | some _, none => .error .noConsequent
          | some premise, some conclusion => premise.compile >>= fun antecedent =>
              conclusion.compile >>= fun consequent => sound (.implies antecedent consequent) := by
  obtain ⟨_, _, _, _, _, antecedent, consequent⟩ := authored
  cases spelled
  -- the equations of `compile` are told apart by both halves, also where neither is read
  cases found : Operator.ofText? spelling with
  | none => cases antecedent <;> cases consequent <;> simp only [compile, found]
  | some operator =>
      cases operator <;> cases antecedent <;> cases consequent <;> simp only [compile, found]

theorem compile_unsupported (operator : Operator.ofText? spelling = none) :
    authored.compile = .error (.unsupportedOperator spelling) := by
  rw [compile_of_spelled spelled, operator]

theorem compile_conjunction (operator : Operator.ofText? spelling = some .conjunction) :
    authored.compile = compileNodes authored.entries >>= fun nodes =>
      sound (conjunction (barePhrases authored.entries) nodes) := by
  rw [compile_of_spelled spelled, operator]

theorem compile_disjunction (operator : Operator.ofText? spelling = some .disjunction) :
    authored.compile = compileNodes authored.entries >>= fun nodes =>
      sound (disjunction (barePhrases authored.entries) nodes) := by
  rw [compile_of_spelled spelled, operator]

theorem compile_exclusion (operator : Operator.ofText? spelling = some .exclusion) :
    authored.compile = compileNodes authored.entries >>= fun nodes =>
      sound (exclusion (barePhrases authored.entries) nodes) := by
  rw [compile_of_spelled spelled, operator]

theorem compile_implication (operator : Operator.ofText? spelling = some .implication) :
    authored.compile =
      match authored.antecedent, authored.consequent with
      | none, _ => .error .noAntecedent
      | some _, none => .error .noConsequent
      | some premise, some conclusion => premise.compile >>= fun antecedent =>
          conclusion.compile >>= fun consequent => sound (.implies antecedent consequent) := by
  rw [compile_of_spelled spelled, operator]

end Operators

theorem compiled_of_compile {authored : Authored} {condition : Condition}
    (compiled : authored.compile = .ok condition) :
    Compiled authored condition ∧ condition.Sound := by
  cases spelled : authored.operator with
  | none =>
      obtain ⟨_, element, _, _, _, _, _⟩ := authored
      cases spelled
      cases element with
      | none => simp [compile] at compiled
      | some name =>
          rw [compile, sound_eq_ok_iff] at compiled
          obtain ⟨rfl, checked⟩ := compiled
          exact ⟨.element rfl rfl, checked⟩
  | some spelling =>
      cases operator : Operator.ofText? spelling with
      | none => simp [compile_unsupported spelled operator] at compiled
      | some operator' =>
          cases operator' with
          | conjunction =>
              rw [compile_conjunction spelled operator] at compiled
              obtain ⟨nodes, inner, rfl, checked⟩ := bind_sound_eq_ok compiled
              exact ⟨.conjunction spelled operator inner, checked⟩
          | disjunction =>
              rw [compile_disjunction spelled operator] at compiled
              obtain ⟨nodes, inner, rfl, checked⟩ := bind_sound_eq_ok compiled
              exact ⟨.disjunction spelled operator inner, checked⟩
          | exclusion =>
              rw [compile_exclusion spelled operator] at compiled
              obtain ⟨nodes, inner, rfl, checked⟩ := bind_sound_eq_ok compiled
              exact ⟨.exclusion spelled operator inner, checked⟩
          | implication =>
              rw [compile_implication spelled operator] at compiled
              split at compiled
              · simp at compiled
              · simp at compiled
              · rename_i premise conclusion first second
                cases compiledFirst : premise.compile with
                | error fault => simp [compiledFirst, bind, Except.bind] at compiled
                | ok antecedent =>
                    rw [compiledFirst] at compiled
                    obtain ⟨consequent, compiledSecond, rfl, checked⟩ := bind_sound_eq_ok compiled
                    exact ⟨.implication spelled operator first second compiledFirst compiledSecond,
                      checked⟩

end Compliance.Authored
