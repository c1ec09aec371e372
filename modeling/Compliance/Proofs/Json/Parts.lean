import Compliance.Json.Basic
import Compliance.Proofs.Keyed

/-!
What holds of a value by its parts: how its members come to stand in order, how high it is, and
that there are no numbers in it.
-/

namespace Compliance.Json

open scoped List

theorem sortedItems_eq_map (items : List Json) : sortedItems items = items.map sorted := by
  induction items with
  | nil => rfl
  | cons item rest ih => rw [sortedItems, ih, List.map_cons]

theorem sortedMembers_eq_map (members : List (String × Json)) :
    sortedMembers members = members.map fun member => (member.1, member.2.sorted) := by
  induction members with
  | nil => rfl
  | cons member rest ih => rw [sortedMembers, ih, List.map_cons]

theorem sorted_object {members : List (String × Json)} (distinct : (Keyed.keys members).Nodup) :
    ∃ inOrder, (object members).sorted = .object inOrder ∧
      inOrder ~ members.map fun member => (member.1, member.2.sorted) := by
  refine ⟨_, rfl, ?_⟩
  rw [sortedMembers_eq_map]
  apply Keyed.ofList_perm
  rw [Keyed.keys, List.map_map]
  exact distinct

theorem itemsHeight_le_iff (items : List Json) (bound : Nat) :
    itemsHeight items ≤ bound ↔ ∀ item ∈ items, item.height ≤ bound := by
  induction items with
  | nil => simp [itemsHeight]
  | cons item rest ih => rw [itemsHeight, Nat.max_le, ih, List.forall_mem_cons]

theorem membersHeight_le_iff (members : List (String × Json)) (bound : Nat) :
    membersHeight members ≤ bound ↔ ∀ member ∈ members, member.2.height ≤ bound := by
  induction members with
  | nil => simp [membersHeight]
  | cons member rest ih => rw [membersHeight, Nat.max_le, ih, List.forall_mem_cons]

theorem height_of_mem_items {items : List Json} {item : Json} (member : item ∈ items) :
    item.height < (array items).height :=
  Nat.lt_succ_of_le ((itemsHeight_le_iff items _).mp (Nat.le_refl _) item member)

theorem height_of_mem_members {members : List (String × Json)} {key : String} {value : Json}
    (member : (key, value) ∈ members) : value.height < (object members).height :=
  Nat.lt_succ_of_le ((membersHeight_le_iff members _).mp (Nat.le_refl _) (key, value) member)

inductive Numberless : Json → Prop
  | null : Numberless .null
  | bool (value : Bool) : Numberless (.bool value)
  | string (text : String) : Numberless (.string text)
  | array (items : List Json) (inner : ∀ item ∈ items, Numberless item) :
      Numberless (.array items)
  | object (members : List (String × Json)) (inner : ∀ member ∈ members, Numberless member.2) :
      Numberless (.object members)

end Compliance.Json
