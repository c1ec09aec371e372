import Compliance.Proofs.Condition.Compile

/-!
What becomes of the phrases of a written condition when it is compiled. A node is read by its form,
an operator or an element, and each form has fields that it does not look at: the phrases in those
are in no leaf of the compiled tree, and all others are, each as often as it is written.
-/

namespace Compliance

namespace Condition

theorem childPhrases_append (earlier later : List Condition) :
    childPhrases (earlier ++ later) = childPhrases earlier ++ childPhrases later := by
  induction earlier with
  | nil => rfl
  | cons child rest ih =>
      rw [List.cons_append, childPhrases, ih, childPhrases, List.append_assoc]

theorem childPhraseCount_eq_length {children : List Condition}
    (each : ∀ child ∈ children, child.phraseCount = child.phrases.length) :
    childPhraseCount children = (childPhrases children).length := by
  induction children with
  | nil => rfl
  | cons child rest ih =>
      obtain ⟨first, others⟩ := List.forall_mem_cons.mp each
      rw [childPhraseCount, childPhrases, List.length_append, first, ih others]

theorem phraseCount_eq_length (condition : Condition) :
    condition.phraseCount = condition.phrases.length := by
  induction condition using Condition.induction with
  | element leaf => rw [phraseCount, phrases]
  | anyPhrase written => rw [phraseCount, phrases]
  | allOf children ih | anyOf children ih | noneOf children ih =>
      rw [phraseCount, phrases, childPhraseCount_eq_length ih]
  | implies antecedent consequent ihAntecedent ihConsequent =>
      rw [phraseCount, phrases, List.length_append, ihAntecedent, ihConsequent]

end Condition

namespace Authored

mutual

/-- The phrases written anywhere in a node, in whatever fields. -/
def written : Authored → List String
  | ⟨_, _, options, _, entries, antecedent, consequent⟩ =>
      options ++ entriesWritten entries ++ halfWritten antecedent ++ halfWritten consequent

def entriesWritten : List (String ⊕ Authored) → List String
  | [] => []
  | .inl phrase :: rest => phrase :: entriesWritten rest
  | .inr node :: rest => node.written ++ entriesWritten rest

def halfWritten : Option Authored → List String
  | none => []
  | some node => node.written

end

mutual

/-- The phrases in fields that the form of their node does not look at: beside an operator its
options, beside an implication its entries too, and beside all else both halves. -/
def unread : Authored → List String
  | ⟨none, _, _, _, entries, antecedent, consequent⟩ =>
      entriesWritten entries ++ halfWritten antecedent ++ halfWritten consequent
  | ⟨some spelling, _, options, _, entries, antecedent, consequent⟩ =>
      match Operator.ofText? spelling with
      | some .implication =>
          options ++ entriesWritten entries ++ halfUnread antecedent ++ halfUnread consequent
      | _ => options ++ entriesUnread entries ++ halfWritten antecedent ++ halfWritten consequent

def entriesUnread : List (String ⊕ Authored) → List String
  | [] => []
  | .inl _ :: rest => entriesUnread rest
  | .inr node :: rest => node.unread ++ entriesUnread rest

def halfUnread : Option Authored → List String
  | none => []
  | some node => node.unread

end

section Forms

variable {authored : Authored} {spelling : String}

theorem written_eq (authored : Authored) :
    authored.written = authored.options ++ entriesWritten authored.entries ++
      halfWritten authored.antecedent ++ halfWritten authored.consequent := by
  obtain ⟨_, _, _, _, _, _, _⟩ := authored
  rw [written]

theorem unread_of_element (bare : authored.operator = none) :
    authored.unread = entriesWritten authored.entries ++ halfWritten authored.antecedent ++
      halfWritten authored.consequent := by
  obtain ⟨_, _, _, _, _, _, _⟩ := authored
  cases bare
  rw [unread]

theorem unread_of_implication (spelled : authored.operator = some spelling)
    (operator : Operator.ofText? spelling = some .implication) :
    authored.unread = authored.options ++ entriesWritten authored.entries ++
      halfUnread authored.antecedent ++ halfUnread authored.consequent := by
  obtain ⟨_, _, _, _, _, _, _⟩ := authored
  cases spelled
  rw [unread, operator]

theorem unread_of_entries {form : Operator} (spelled : authored.operator = some spelling)
    (operator : Operator.ofText? spelling = some form) (listed : form ≠ .implication) :
    authored.unread = authored.options ++ entriesUnread authored.entries ++
      halfWritten authored.antecedent ++ halfWritten authored.consequent := by
  obtain ⟨_, _, _, _, _, _, _⟩ := authored
  cases spelled
  cases form with
  | implication => exact absurd rfl listed
  | conjunction | disjunction | exclusion => rw [unread, operator]

end Forms

section Connectives

variable (phrases : List String) (nodes : List Condition)

theorem childPhrases_withImplicitElement :
    Condition.childPhrases (withImplicitElement phrases nodes) =
      phrases ++ Condition.childPhrases nodes := by
  unfold withImplicitElement
  split
  · rename_i empty
    simp [List.isEmpty_iff.mp empty]
  · rw [Condition.childPhrases, Condition.phrases, Element.implicit]

theorem childPhrases_phraseElements :
    Condition.childPhrases (phrases.map phraseElement) = phrases := by
  induction phrases with
  | nil => rfl
  | cons phrase rest ih =>
      rw [List.map_cons, Condition.childPhrases, ih, phraseElement, Condition.phrases]
      rfl

theorem phrases_conjunction :
    (conjunction phrases nodes).phrases = phrases ++ Condition.childPhrases nodes := by
  rw [conjunction, Condition.phrases, Condition.childPhrases_append, childPhrases_phraseElements]

theorem phrases_disjunction :
    (disjunction phrases nodes).phrases = phrases ++ Condition.childPhrases nodes := by
  unfold disjunction
  split
  · rename_i empty
    rw [List.isEmpty_iff.mp empty, Condition.phrases, Condition.childPhrases, List.append_nil]
  · rw [Condition.phrases, childPhrases_withImplicitElement]

theorem phrases_exclusion :
    (exclusion phrases nodes).phrases = phrases ++ Condition.childPhrases nodes := by
  rw [exclusion, Condition.phrases, childPhrases_withImplicitElement]

end Connectives

def AccountsFor (authored : Authored) (condition : Condition) : Prop :=
  ∀ phrase, authored.written.count phrase =
    condition.phrases.count phrase + authored.unread.count phrase

theorem count_entriesWritten (phrase : String) (entries : List (String ⊕ Authored)) :
    (entriesWritten entries).count phrase = (barePhrases entries).count phrase +
      ((nestedNodes entries).flatMap written).count phrase := by
  induction entries with
  | nil => rfl
  | cons entry rest ih =>
      cases entry with
      | inl bare =>
          have phrases : barePhrases (.inl bare :: rest) = bare :: barePhrases rest := rfl
          have nodes : nestedNodes (.inl bare :: rest) = nestedNodes rest := rfl
          rw [entriesWritten, phrases, nodes, List.count_cons, List.count_cons, ih]
          omega
      | inr node =>
          have phrases : barePhrases (.inr node :: rest) = barePhrases rest := rfl
          have nodes : nestedNodes (.inr node :: rest) = node :: nestedNodes rest := rfl
          rw [entriesWritten, phrases, nodes, List.flatMap_cons, List.count_append,
            List.count_append, ih]
          omega

theorem entriesUnread_eq_flatMap (entries : List (String ⊕ Authored)) :
    entriesUnread entries = (nestedNodes entries).flatMap unread := by
  induction entries with
  | nil => rfl
  | cons entry rest ih =>
      cases entry with
      | inl bare => exact ih
      | inr node =>
          rw [entriesUnread, ih]
          rfl

theorem count_children {authoreds : List Authored} {nodes : List Condition}
    (pairs : List.Forall₂ AccountsFor authoreds nodes) (phrase : String) :
    (authoreds.flatMap written).count phrase =
      (Condition.childPhrases nodes).count phrase + (authoreds.flatMap unread).count phrase := by
  induction pairs with
  | nil => rfl
  | cons first _ ih =>
      simp only [List.flatMap_cons, Condition.childPhrases, List.count_append, ih, first phrase]
      omega

theorem accountsFor_of_entries {authored : Authored} {spelling : String} {form : Operator}
    {nodes : List Condition} {condition : Condition}
    (spelled : authored.operator = some spelling)
    (operator : Operator.ofText? spelling = some form) (listed : form ≠ .implication)
    (pairs : List.Forall₂ AccountsFor (nestedNodes authored.entries) nodes)
    (held : condition.phrases =
      barePhrases authored.entries ++ Condition.childPhrases nodes) :
    authored.AccountsFor condition := by
  intro phrase
  have entries := count_entriesWritten phrase authored.entries
  have children := count_children pairs phrase
  rw [written_eq, unread_of_entries spelled operator listed, held, entriesUnread_eq_flatMap]
  simp only [List.count_append]
  omega

theorem accountsFor_of_compile {authored : Authored} {condition : Condition}
    (compiled : authored.compile = .ok condition) : authored.AccountsFor condition := by
  induction authored using Authored.induction generalizing condition with
  | node authored inEntries inAntecedent inConsequent =>
      cases (compiled_of_compile compiled).1 with
      | element bare named =>
          intro phrase
          rw [written_eq, unread_of_element bare, Condition.phrases]
          simp only [List.count_append]
          omega
      | conjunction spelled operator inner =>
          exact accountsFor_of_entries spelled operator (by decide)
            (forall₂_nestedNodes inner inEntries) (phrases_conjunction _ _)
      | disjunction spelled operator inner =>
          exact accountsFor_of_entries spelled operator (by decide)
            (forall₂_nestedNodes inner inEntries) (phrases_disjunction _ _)
      | exclusion spelled operator inner =>
          exact accountsFor_of_entries spelled operator (by decide)
            (forall₂_nestedNodes inner inEntries) (phrases_exclusion _ _)
      | implication spelled operator first second compiledFirst compiledSecond =>
          intro phrase
          have premise := inAntecedent _ first compiledFirst phrase
          have conclusion := inConsequent _ second compiledSecond phrase
          rw [written_eq, unread_of_implication spelled operator, first, second,
            Condition.phrases]
          simp only [halfWritten, halfUnread, List.count_append]
          omega

/-- Compiling keeps every phrase but those in fields that are not looked at, and so none is lost
and the count is right exactly when there are no such phrases. -/
theorem phrases_of_compile {authored : Authored} {condition : Condition}
    (compiled : authored.compile = .ok condition) :
    authored.written.Perm (condition.phrases ++ authored.unread) ∧
      (((∀ phrase ∈ authored.written, phrase ∈ condition.phrases) ∧
        condition.phraseCount = authored.written.length) ↔ authored.unread = []) := by
  have same : authored.written.Perm (condition.phrases ++ authored.unread) := by
    rw [List.perm_iff_count]
    intro phrase
    rw [List.count_append]
    exact accountsFor_of_compile compiled phrase
  refine ⟨same, ?_⟩
  have length := same.length_eq
  rw [List.length_append] at length
  constructor
  · rintro ⟨_, counted⟩
    rw [Condition.phraseCount_eq_length] at counted
    exact List.eq_nil_of_length_eq_zero (by omega)
  · intro nothing
    rw [nothing, List.append_nil] at same
    exact ⟨fun phrase => same.mem_iff.mp,
      by rw [Condition.phraseCount_eq_length, same.length_eq]⟩

/-- Options beside an operator are accepted and lost. -/
theorem phrases_of_compile_options :
    let authored : Authored :=
      { operator := some "AND", options := ["arrested"], entries := [.inl "cautioned"] }
    let condition : Condition := .allOf [phraseElement "cautioned"]
    authored.compile = .ok condition ∧ authored.unread = ["arrested"] ∧
      ¬ ((∀ phrase ∈ authored.written, phrase ∈ condition.phrases) ∧
        condition.phraseCount = authored.written.length) := by
  intro authored condition
  have compiled : authored.compile = .ok condition := rfl
  have lost : authored.unread = ["arrested"] := rfl
  refine ⟨compiled, lost, ?_⟩
  rw [(phrases_of_compile compiled).2, lost]
  exact List.cons_ne_nil _ _

end Authored

end Compliance
