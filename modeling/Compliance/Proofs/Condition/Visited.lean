import Compliance.Proofs.Condition.Decision

/-!
The leaves of a condition tree from left to right, and which of them an evaluation gets to: all but
those in the consequent of an implication whose antecedent does not hold. The evidence of a verdict
is what is found for the phrases of these leaves, one after the other, whatever becomes of them.
-/

namespace Compliance

namespace Condition

mutual

/-- Every leaf of the tree with whether it is reached, given whether the tree itself is. -/
def leaves (mentioned : String → Prop) [DecidablePred mentioned] (reached : Bool) :
    Condition → List (Element × Bool)
  | element leaf => [(leaf, reached)]
  | anyPhrase phrases => [(Element.implicit phrases, reached)]
  | allOf children => childLeaves mentioned reached children
  | anyOf children => childLeaves mentioned reached children
  | noneOf children => childLeaves mentioned reached children
  | implies antecedent consequent =>
      antecedent.leaves mentioned reached ++
        consequent.leaves mentioned (reached && decide (antecedent.Holds mentioned))

def childLeaves (mentioned : String → Prop) [DecidablePred mentioned] (reached : Bool) :
    List Condition → List (Element × Bool)
  | [] => []
  | child :: rest => child.leaves mentioned reached ++ childLeaves mentioned reached rest

end

def visited (mentioned : String → Prop) [DecidablePred mentioned] (condition : Condition) :
    List Element :=
  ((condition.leaves mentioned true).filter Prod.snd).map Prod.fst

/-- What is found at those of the leaves that are reached. -/
def findings (search : String → List Evidence) (leaves : List (Element × Bool)) : List Evidence :=
  leaves.flatMap fun (leaf, reached) => if reached then leaf.phrases.flatMap search else []

variable {mentioned : String → Prop} [DecidablePred mentioned] {search : String → List Evidence}

@[simp] theorem findings_nil : findings search [] = [] := rfl

@[simp] theorem findings_append (left right : List (Element × Bool)) :
    findings search (left ++ right) = findings search left ++ findings search right :=
  List.flatMap_append

theorem findings_singleton (leaf : Element) (reached : Bool) :
    findings search [(leaf, reached)] =
      if reached then leaf.phrases.flatMap search else [] := by
  simp [findings]

theorem findings_leaves_true (condition : Condition) :
    findings search (condition.leaves mentioned true) =
      (condition.visited mentioned).flatMap fun leaf => leaf.phrases.flatMap search := by
  rw [visited, findings]
  generalize condition.leaves mentioned true = leaves
  induction leaves with
  | nil => rfl
  | cons entry rest ih =>
      obtain ⟨leaf, reached⟩ := entry
      cases reached <;> simp [ih]

theorem findings_childLeaves {children : List Condition} {reached : Bool}
    (ih : ∀ child ∈ children, ∀ reached, findings search (child.leaves mentioned reached) =
      if reached then (child.verdict search).evidence else []) :
    findings search (childLeaves mentioned reached children) =
      if reached then Verdict.allEvidence (verdicts search children) else [] := by
  induction children with
  | nil => simp [childLeaves, verdicts, Verdict.allEvidence]
  | cons child rest ihRest =>
      obtain ⟨first, others⟩ := List.forall_mem_cons.mp ih
      rw [childLeaves, findings_append, first, ihRest others, verdicts]
      cases reached <;> simp [Verdict.allEvidence]

/-- A tree that is reached gives the evidence of its verdict, and one that is not gives none. -/
theorem findings_leaves (found : ∀ phrase, search phrase ≠ [] ↔ mentioned phrase)
    (condition : Condition) (reached : Bool) :
    findings search (condition.leaves mentioned reached) =
      if reached then (condition.verdict search).evidence else [] := by
  induction condition using Condition.induction generalizing reached with
  | element leaf =>
      rw [leaves, findings_singleton, verdict, Verdict.ofElement, List.flatMap_def]
  | anyPhrase phrases =>
      rw [leaves, findings_singleton, verdict, Verdict.ofElement, List.flatMap_def]
  | allOf children ih | anyOf children ih | noneOf children ih =>
      rw [leaves, findings_childLeaves ih, verdict]
      rfl
  | implies antecedent consequent ihAntecedent ihConsequent =>
      rw [leaves, findings_append, ihAntecedent, ihConsequent, verdict]
      have truth := verdict_satisfied_iff found antecedent
      by_cases premise : antecedent.Holds mentioned
      · cases reached <;> simp [truth, premise, Verdict.implication]
      · cases reached <;> simp [truth, premise, Verdict.idle]

theorem phrases_childLeaves {children : List Condition} {reached : Bool}
    (ih : ∀ child ∈ children, ∀ reached, (child.leaves mentioned reached).flatMap
      (fun entry => entry.1.phrases) = child.phrases) :
    (childLeaves mentioned reached children).flatMap (fun entry => entry.1.phrases) =
      childPhrases children := by
  induction children with
  | nil => rfl
  | cons child rest ihRest =>
      obtain ⟨first, others⟩ := List.forall_mem_cons.mp ih
      rw [childLeaves, List.flatMap_append, first, ihRest others, childPhrases]

/-- No leaf is left out, reached or not: together they have all phrases of the tree. -/
theorem phrases_leaves (condition : Condition) (reached : Bool) :
    (condition.leaves mentioned reached).flatMap (fun entry => entry.1.phrases) =
      condition.phrases := by
  induction condition using Condition.induction generalizing reached with
  | element leaf => simp [leaves, Condition.phrases]
  | anyPhrase alternatives => simp [leaves, Condition.phrases, Element.implicit]
  | allOf children ih | anyOf children ih | noneOf children ih =>
      rw [leaves, phrases_childLeaves ih, phrases]
  | implies antecedent consequent ihAntecedent ihConsequent =>
      rw [leaves, List.flatMap_append, ihAntecedent, ihConsequent, phrases]

theorem exists_phrase_of_mem_evidence (found : ∀ phrase, search phrase ≠ [] ↔ mentioned phrase)
    {condition : Condition} {item : Evidence}
    (member : item ∈ (condition.verdict search).evidence) :
    ∃ phrase ∈ condition.phrases, item ∈ search phrase := by
  have listed : item ∈ findings search (condition.leaves mentioned true) := by
    rw [findings_leaves found]
    exact member
  obtain ⟨⟨leaf, reached⟩, inTree, inside⟩ := List.mem_flatMap.mp listed
  cases reached with
  | false => exact absurd inside List.not_mem_nil
  | true =>
      obtain ⟨phrase, asked, given⟩ := List.mem_flatMap.mp inside
      have all : (condition.leaves mentioned true).flatMap (fun entry => entry.1.phrases) =
          condition.phrases := condition.phrases_leaves true
      exact ⟨phrase, all ▸ List.mem_flatMap.mpr ⟨_, inTree, asked⟩, given⟩

/-- The evidence of a verdict is what the document has for the phrases of the visited leaves, leaf by
leaf and phrase by phrase, whether or not the branches in which they stand are satisfied. -/
theorem evidence_eq_visited (condition : Condition) (document : Document) (radius : Nat) :
    (condition.evaluate document radius).evidence =
        (condition.visited document.Mentions).flatMap
          (fun leaf => leaf.phrases.flatMap (document.find radius)) ∧
      (condition.leaves document.Mentions true).flatMap (fun entry => entry.1.phrases) =
        condition.phrases := by
  refine ⟨?_, condition.phrases_leaves true⟩
  have all := findings_leaves (document.find_ne_nil_iff radius) condition true
  rw [findings_leaves_true] at all
  exact all.symm

example :
    (anyOf [.implies (.anyPhrase ["arrested"]) (.anyPhrase ["cautioned"]),
      .noneOf [.anyPhrase ["threatened"]]]).visited (· = "cautioned") =
    [Element.implicit ["arrested"], Element.implicit ["threatened"]] := by decide

end Condition

end Compliance
