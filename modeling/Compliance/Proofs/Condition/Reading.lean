import Compliance.Proofs.Condition.Compile
import Compliance.Proofs.Condition.Truth

/-!
The direct reading of conditions as they are written, entry by entry, and the proof that compiling
keeps it: however phrases and nodes alternate in a list of entries, regrouping them does not change
the value of the connective.
-/

namespace Compliance

namespace Authored

mutual

/-- What a written node says, given which phrases are mentioned. Its operator is read first, and
without one the node is its element. -/
def Holds (mentioned : String → Prop) : Authored → Prop
  | ⟨none, none, _, _, _, _, _⟩ => False
  | ⟨none, some name, options, required, _, _, _⟩ =>
      Element.Met mentioned { name, phrases := options, required := required.getD true }
  | ⟨some spelling, _, _, _, entries, antecedent, consequent⟩ =>
      match Operator.ofText? spelling with
      | none => False
      | some .conjunction => EveryHolds mentioned entries
      | some .disjunction => SomeHolds mentioned entries
      | some .exclusion => ¬ SomeHolds mentioned entries
      | some .implication =>
          match antecedent, consequent with
          | some premise, some conclusion =>
              premise.Holds mentioned → conclusion.Holds mentioned
          | _, _ => False

def EveryHolds (mentioned : String → Prop) : List (String ⊕ Authored) → Prop
  | [] => True
  | .inl phrase :: rest => mentioned phrase ∧ EveryHolds mentioned rest
  | .inr node :: rest => node.Holds mentioned ∧ EveryHolds mentioned rest

def SomeHolds (mentioned : String → Prop) : List (String ⊕ Authored) → Prop
  | [] => False
  | .inl phrase :: rest => mentioned phrase ∨ SomeHolds mentioned rest
  | .inr node :: rest => node.Holds mentioned ∨ SomeHolds mentioned rest

end

section Operators

variable (mentioned : String → Prop) {authored : Authored} {spelling : String}

theorem holds_element {name : String} (bare : authored.operator = none)
    (named : authored.element = some name) :
    authored.Holds mentioned ↔ Element.Met mentioned
      { name, phrases := authored.options, required := authored.required.getD true } := by
  obtain ⟨_, _, _, _, _, _, _⟩ := authored
  cases bare
  cases named
  rw [Holds]

theorem holds_of_spelled (spelled : authored.operator = some spelling) :
    authored.Holds mentioned =
      match Operator.ofText? spelling with
      | none => False
      | some .conjunction => EveryHolds mentioned authored.entries
      | some .disjunction => SomeHolds mentioned authored.entries
      | some .exclusion => ¬ SomeHolds mentioned authored.entries
      | some .implication =>
          match authored.antecedent, authored.consequent with
          | some premise, some conclusion => premise.Holds mentioned → conclusion.Holds mentioned
          | _, _ => False := by
  obtain ⟨_, _, _, _, _, antecedent, consequent⟩ := authored
  cases spelled
  cases operator : Operator.ofText? spelling with
  | none => cases antecedent <;> cases consequent <;> simp [Holds, operator]
  | some known => cases known <;> cases antecedent <;> cases consequent <;> simp [Holds, operator]

theorem holds_conjunction (spelled : authored.operator = some spelling)
    (operator : Operator.ofText? spelling = some .conjunction) :
    authored.Holds mentioned ↔ EveryHolds mentioned authored.entries := by
  rw [holds_of_spelled mentioned spelled, operator]

theorem holds_disjunction (spelled : authored.operator = some spelling)
    (operator : Operator.ofText? spelling = some .disjunction) :
    authored.Holds mentioned ↔ SomeHolds mentioned authored.entries := by
  rw [holds_of_spelled mentioned spelled, operator]

theorem holds_exclusion (spelled : authored.operator = some spelling)
    (operator : Operator.ofText? spelling = some .exclusion) :
    authored.Holds mentioned ↔ ¬ SomeHolds mentioned authored.entries := by
  rw [holds_of_spelled mentioned spelled, operator]

theorem holds_implication {premise conclusion : Authored}
    (spelled : authored.operator = some spelling)
    (operator : Operator.ofText? spelling = some .implication)
    (first : authored.antecedent = some premise) (second : authored.consequent = some conclusion) :
    authored.Holds mentioned ↔ (premise.Holds mentioned → conclusion.Holds mentioned) := by
  rw [holds_of_spelled mentioned spelled, operator, first, second]

end Operators

theorem everyHolds_iff (mentioned : String → Prop) (entries : List (String ⊕ Authored)) :
    EveryHolds mentioned entries ↔ (∀ phrase ∈ barePhrases entries, mentioned phrase) ∧
      ∀ node ∈ nestedNodes entries, node.Holds mentioned := by
  induction entries with
  | nil => simp [EveryHolds, barePhrases, nestedNodes]
  | cons entry rest ih =>
      simp only [mem_barePhrases, mem_nestedNodes] at ih ⊢
      cases entry with
      | inl phrase => simp [EveryHolds, ih, and_assoc]
      | inr node => simp [EveryHolds, ih, and_left_comm]

theorem someHolds_iff (mentioned : String → Prop) (entries : List (String ⊕ Authored)) :
    SomeHolds mentioned entries ↔ (∃ phrase ∈ barePhrases entries, mentioned phrase) ∨
      ∃ node ∈ nestedNodes entries, node.Holds mentioned := by
  induction entries with
  | nil => simp [SomeHolds, barePhrases, nestedNodes]
  | cons entry rest ih =>
      simp only [mem_barePhrases, mem_nestedNodes] at ih ⊢
      cases entry with
      | inl phrase => simp [SomeHolds, ih, or_assoc]
      | inr node => simp [SomeHolds, ih, or_left_comm]

end Authored

namespace Condition

theorem holds_element_phrase (mentioned : String → Prop) (phrase : String) :
    (Authored.phraseElement phrase).Holds mentioned ↔ mentioned phrase := by
  simp [Authored.phraseElement, Holds, Element.Met]

theorem holds_element_implicit (mentioned : String → Prop) (phrases : List String) :
    (element (Element.implicit phrases)).Holds mentioned ↔
      ∃ phrase ∈ phrases, mentioned phrase := by
  rw [Holds, Element.met_implicit_iff]

theorem exists_withImplicitElement (mentioned : String → Prop) (phrases : List String)
    (nodes : List Condition) :
    (∃ child ∈ Authored.withImplicitElement phrases nodes, child.Holds mentioned) ↔
      (∃ phrase ∈ phrases, mentioned phrase) ∨ ∃ node ∈ nodes, node.Holds mentioned := by
  unfold Authored.withImplicitElement
  split
  · rename_i empty
    simp [List.isEmpty_iff.mp empty]
  · rw [List.exists_mem_cons_iff, holds_element_implicit]

theorem holds_conjunction (mentioned : String → Prop) (phrases : List String)
    (nodes : List Condition) :
    (Authored.conjunction phrases nodes).Holds mentioned ↔
      (∀ phrase ∈ phrases, mentioned phrase) ∧ ∀ node ∈ nodes, node.Holds mentioned := by
  rw [Authored.conjunction, Holds, List.forall_mem_append, List.forall_mem_map]
  simp only [holds_element_phrase]

theorem holds_disjunction (mentioned : String → Prop) (phrases : List String)
    (nodes : List Condition) :
    (Authored.disjunction phrases nodes).Holds mentioned ↔
      (∃ phrase ∈ phrases, mentioned phrase) ∨ ∃ node ∈ nodes, node.Holds mentioned := by
  unfold Authored.disjunction
  split
  · rename_i empty
    simp [List.isEmpty_iff.mp empty, Holds]
  · simp only [Holds, exists_prop, exists_withImplicitElement]

theorem holds_exclusion (mentioned : String → Prop) (phrases : List String)
    (nodes : List Condition) :
    (Authored.exclusion phrases nodes).Holds mentioned ↔
      ¬ ((∃ phrase ∈ phrases, mentioned phrase) ∨ ∃ node ∈ nodes, node.Holds mentioned) := by
  rw [Authored.exclusion, Holds, ← exists_withImplicitElement]
  simp only [not_exists, not_and]

theorem holds_congr {condition : Condition} {left right : String → Prop}
    (same : ∀ phrase ∈ condition.phrases, (left phrase ↔ right phrase)) :
    condition.Holds left ↔ condition.Holds right := by
  induction condition using Condition.induction with
  | element leaf =>
      simp only [Holds, Element.Met]
      exact or_congr_right (exists_congr fun phrase => and_congr_right (same phrase))
  | anyPhrase phrases =>
      simp only [Holds]
      exact exists_congr fun phrase => and_congr_right (same phrase)
  | allOf children ih | anyOf children ih | noneOf children ih =>
      have each : ∀ child ∈ children, (child.Holds left ↔ child.Holds right) := by
        intro child member
        apply ih child member
        intro phrase inside
        exact same phrase ((mem_childPhrases phrase children).mpr ⟨child, member, inside⟩)
      simp +contextual only [Holds, exists_prop, each]
  | implies antecedent consequent ihAntecedent ihConsequent =>
      have first := ihAntecedent fun phrase inside => same phrase (List.mem_append_left _ inside)
      have second := ihConsequent fun phrase inside => same phrase (List.mem_append_right _ inside)
      rw [Holds, Holds, first, second]

end Condition

theorem forall_mem_iff_of_forall₂ {α β : Type} {left : α → Prop} {right : β → Prop}
    {xs : List α} {ys : List β} (pairs : List.Forall₂ (fun x y => left x ↔ right y) xs ys) :
    (∀ x ∈ xs, left x) ↔ ∀ y ∈ ys, right y := by
  induction pairs with
  | nil => simp
  | cons first _ ih => rw [List.forall_mem_cons, List.forall_mem_cons, first, ih]

theorem exists_mem_iff_of_forall₂ {α β : Type} {left : α → Prop} {right : β → Prop}
    {xs : List α} {ys : List β} (pairs : List.Forall₂ (fun x y => left x ↔ right y) xs ys) :
    (∃ x ∈ xs, left x) ↔ ∃ y ∈ ys, right y := by
  induction pairs with
  | nil => simp
  | cons first _ ih => rw [List.exists_mem_cons_iff, List.exists_mem_cons_iff, first, ih]

namespace Authored

theorem holds_iff_of_compile (mentioned : String → Prop) {authored : Authored}
    {condition : Condition} (compiled : authored.compile = .ok condition) :
    authored.Holds mentioned ↔ condition.Holds mentioned := by
  induction authored using Authored.induction generalizing condition with
  | node authored inEntries inAntecedent inConsequent =>
      have nodesAgree {nodes : List Condition}
          (inner : compileNodes authored.entries = .ok nodes) :
          List.Forall₂ (fun written node => written.Holds mentioned ↔ node.Holds mentioned)
            (nestedNodes authored.entries) nodes :=
        forall₂_nestedNodes inner inEntries
      cases (compiled_of_compile compiled).1 with
      | element bare named => rw [holds_element mentioned bare named, Condition.Holds]
      | conjunction spelled operator inner =>
          rw [holds_conjunction mentioned spelled operator, everyHolds_iff,
            Condition.holds_conjunction, forall_mem_iff_of_forall₂ (nodesAgree inner)]
      | disjunction spelled operator inner =>
          rw [holds_disjunction mentioned spelled operator, someHolds_iff,
            Condition.holds_disjunction, exists_mem_iff_of_forall₂ (nodesAgree inner)]
      | exclusion spelled operator inner =>
          rw [holds_exclusion mentioned spelled operator, someHolds_iff,
            Condition.holds_exclusion, exists_mem_iff_of_forall₂ (nodesAgree inner)]
      | implication spelled operator first second compiledFirst compiledSecond =>
          rw [holds_implication mentioned spelled operator first second, Condition.Holds,
            inAntecedent _ first compiledFirst, inConsequent _ second compiledSecond]

/-- For every written condition that compiles and every document, the verdict on the compiled tree
is the direct reading of what was written. -/
theorem evaluate_compile_iff_holds {authored : Authored} {condition : Condition}
    (compiled : authored.compile = .ok condition) (document : Document) (radius : Nat) :
    (condition.evaluate document radius).satisfied = true ↔
      authored.Holds document.Contains := by
  have visible := (compiled_of_compile compiled).2.phrases_visible
  have found (phrase : String) := document.find_ne_nil_iff radius phrase
  calc (condition.evaluate document radius).satisfied = true
      ↔ condition.Holds document.Mentions := Condition.verdict_satisfied_iff found condition
    _ ↔ condition.Holds document.Contains := Condition.holds_congr fun phrase member =>
        document.mentions_iff_contains (visible phrase member)
    _ ↔ authored.Holds document.Contains :=
        (holds_iff_of_compile document.Contains compiled).symm

/-- Phrases on both sides of a nested exclusion, which itself mixes a phrase with an element. -/
theorem evaluate_compile_iff_holds_mixed :
    let exclusion : Authored := { operator := some "not", entries := [.inl "calm",
      .inr { element := some "test", options := ["breath test"] }] }
    let authored : Authored :=
      { operator := some "or", entries := [.inl "refused", .inr exclusion, .inl "left"] }
    let condition : Condition := .anyOf [.element (Element.implicit ["refused", "left"]),
      .noneOf [.element (Element.implicit ["calm"]),
        .element { name := "test", phrases := ["breath test"], required := true }]]
    let document := Document.ofText "He stayed calm. He REFUSED a breath  test."
    authored.compile = .ok condition ∧
      ((condition.evaluate document 1).satisfied = true ↔ authored.Holds document.Contains) :=
  ⟨rfl, evaluate_compile_iff_holds rfl _ 1⟩

end Authored

end Compliance
