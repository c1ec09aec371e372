import Mathlib.Data.List.Forall2

/-!
Results that may be faults: what it takes for one that is made of others to be a value.
-/

namespace Compliance.Except

variable {ε δ α β : Type}

theorem bind_eq_ok_iff (first : Except ε α) (next : α → Except ε β) (last : β) :
    (first >>= next) = .ok last ↔ ∃ value, first = .ok value ∧ next value = .ok last := by
  cases first with
  | error fault =>
      constructor
      · intro impossible
        cases impossible
      · rintro ⟨value, impossible, _⟩
        cases impossible
  | ok value =>
      constructor
      · intro done
        exact ⟨value, rfl, done⟩
      · rintro ⟨other, same, done⟩
        rwa [← Except.ok.inj same] at done

theorem mapError_eq_ok_iff (f : ε → δ) (result : Except ε α) (value : α) :
    result.mapError f = .ok value ↔ result = .ok value := by
  cases result with
  | ok read =>
      change (Except.ok read : Except δ α) = .ok value ↔ _
      rw [Except.ok.injEq, Except.ok.injEq]
  | error fault => exact iff_of_false nofun nofun

theorem mapM_map_eq_ok {make : α → β} {read : β → Except ε α} {items : List α}
    (back : ∀ item ∈ items, read (make item) = .ok item) :
    (items.map make).mapM read = .ok items := by
  induction items with
  | nil => rfl
  | cons item rest ih =>
      obtain ⟨first, others⟩ := List.forall_mem_cons.mp back
      rw [List.map_cons, List.mapM_cons, first, ih others]
      rfl

theorem mapM_eq_ok_iff (read : α → Except ε β) (items : List α) (values : List β) :
    items.mapM read = .ok values ↔
      List.Forall₂ (fun item value => read item = .ok value) items values := by
  induction items generalizing values with
  | nil =>
      rw [List.mapM_nil, List.forall₂_nil_left_iff]
      exact ⟨fun made => (Except.ok.inj made).symm, fun none => none ▸ rfl⟩
  | cons item rest ih =>
      rw [List.mapM_cons, bind_eq_ok_iff, List.forall₂_cons_left_iff]
      simp only [bind_eq_ok_iff, ih]
      constructor
      · rintro ⟨value, first, others, remaining, made⟩
        exact ⟨value, others, first, remaining, (Except.ok.inj made).symm⟩
      · rintro ⟨value, others, first, remaining, rfl⟩
        exact ⟨value, first, others, remaining, rfl⟩

def concat (make : α → Except ε (List β)) : List α → Except ε (List β)
  | [] => .ok []
  | item :: rest => do return (← make item) ++ (← concat make rest)

theorem concat_eq_ok_iff (make : α → Except ε (List β)) (items : List α) (all : List β) :
    concat make items = .ok all ↔ ∃ parts,
      List.Forall₂ (fun item part => make item = .ok part) items parts ∧ parts.flatten = all := by
  induction items generalizing all with
  | nil =>
      constructor
      · intro done
        exact ⟨[], List.Forall₂.nil, Except.ok.inj done⟩
      · rintro ⟨parts, made, rfl⟩
        cases made
        rfl
  | cons item rest ih =>
      rw [concat, bind_eq_ok_iff]
      simp only [bind_eq_ok_iff, ih]
      constructor
      · rintro ⟨part, first, _, ⟨parts, others, rfl⟩, joined⟩
        exact ⟨part :: parts, .cons first others, Except.ok.inj joined⟩
      · rintro ⟨_, made, joined⟩
        cases made with
        | cons first others => exact ⟨_, first, _, ⟨_, others, rfl⟩, congrArg Except.ok joined⟩

end Compliance.Except
