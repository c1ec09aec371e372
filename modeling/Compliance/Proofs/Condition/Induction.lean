import Compliance.Condition.Authored

/-!
Induction over condition trees and over their written form, with the claim for every child of a
node, and what that gives for the lists of children.
-/

namespace Compliance

@[elab_as_elim]
theorem Condition.induction {motive : Condition → Prop}
    (element : ∀ leaf, motive (.element leaf))
    (allOf : ∀ children, (∀ child ∈ children, motive child) → motive (.allOf children))
    (anyPhrase : ∀ phrases, motive (.anyPhrase phrases))
    (anyOf : ∀ children, (∀ child ∈ children, motive child) → motive (.anyOf children))
    (noneOf : ∀ children, (∀ child ∈ children, motive child) → motive (.noneOf children))
    (implies : ∀ antecedent consequent, motive antecedent → motive consequent →
      motive (.implies antecedent consequent)) :
    ∀ condition, motive condition :=
  @Condition.rec motive (fun children => ∀ child ∈ children, motive child)
    element allOf anyPhrase anyOf noneOf implies
    (fun _ absent => absurd absent List.not_mem_nil)
    (fun _ _ first others => List.forall_mem_cons.mpr ⟨first, others⟩)

@[elab_as_elim]
theorem Authored.induction {motive : Authored → Prop}
    (node : ∀ authored : Authored, (∀ child, .inr child ∈ authored.entries → motive child) →
      (∀ premise, authored.antecedent = some premise → motive premise) →
      (∀ conclusion, authored.consequent = some conclusion → motive conclusion) →
      motive authored) :
    ∀ authored, motive authored :=
  @Authored.rec motive
    (fun entries => ∀ child, .inr child ∈ entries → motive child)
    (fun half => ∀ child, half = some child → motive child)
    (fun entry => ∀ child, entry = .inr child → motive child)
    (fun operator element options required entries antecedent consequent inEntries inAntecedent
      inConsequent => node ⟨operator, element, options, required, entries, antecedent, consequent⟩
        inEntries inAntecedent inConsequent)
    (fun _ absent => absurd absent List.not_mem_nil)
    (fun _ _ first others child member => (List.mem_cons.mp member).elim
      (fun same => first child same.symm) (others child))
    (fun _ absent => nomatch absent)
    (fun _ child _ same => Option.some.inj same ▸ child)
    (fun _ _ absent => nomatch absent)
    (fun _ child _ same => Sum.inr.inj same ▸ child)

end Compliance
