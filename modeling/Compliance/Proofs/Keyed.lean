import Mathlib.Algebra.GroupWithZero.Nat
import Compliance.Keyed

/-!
Lists in ascending order of their keys. Putting an entry in keeps the order; entries that come in
order, or that are there already, are put where they stood.
-/

namespace Compliance.Keyed

open scoped List

variable {α : Type}

section Lookup

variable {κ : Type} [BEq κ] [LawfulBEq κ] {entries : List (κ × α)}

theorem mem_of_lookup {key : κ} {value : α} (found : entries.lookup key = some value) :
    (key, value) ∈ entries := by
  obtain ⟨before, after, rfl, _⟩ := List.lookup_eq_some_iff.mp found
  exact List.mem_append_right _ List.mem_cons_self

theorem lookup_eq_some_iff_of_nodup (distinct : (entries.map Prod.fst).Nodup) (key : κ)
    (value : α) : entries.lookup key = some value ↔ (key, value) ∈ entries := by
  refine ⟨mem_of_lookup, fun member => ?_⟩
  induction entries with
  | nil => cases member
  | cons first rest ih =>
      obtain ⟨fresh, others⟩ := List.nodup_cons.mp distinct
      rcases List.mem_cons.mp member with rfl | later
      · exact List.lookup_cons_self
      · have apart : key ≠ first.1 := fun known => fresh (List.mem_map.mpr ⟨_, later, known⟩)
        rw [List.lookup_cons, beq_false_of_ne apart]
        exact ih others later

end Lookup

/-- The keys ascend, so that no key stands twice. -/
def Ascending (entries : List (String × α)) : Prop :=
  entries.Pairwise fun earlier later => earlier.1 < later.1

theorem mem_of_mem_insert {key : String} {value : α} {entries : List (String × α)}
    {entry : String × α} (member : entry ∈ insert key value entries) :
    entry = (key, value) ∨ entry ∈ entries := by
  induction entries with
  | nil => exact Or.inl (List.mem_singleton.mp member)
  | cons first rest ih =>
      rw [insert] at member
      split at member
      · exact List.mem_cons.mp member
      · split at member
        · rcases List.mem_cons.mp member with new | old
          · exact Or.inl new
          · exact Or.inr (List.mem_cons_of_mem first old)
        · rcases List.mem_cons.mp member with rfl | later
          · exact Or.inr List.mem_cons_self
          · exact (ih later).imp_right (List.mem_cons_of_mem first)

theorem lt_of_not_lt {key other : String} (notBelow : ¬ key < other) (different : key ≠ other) :
    other < key := by
  apply String.not_le.mp
  intro atMost
  exact different (String.le_antisymm atMost (String.not_lt.mp notBelow))

theorem Ascending.insert {entries : List (String × α)} (ascending : Ascending entries)
    (key : String) (value : α) : Ascending (insert key value entries) := by
  induction entries with
  | nil => exact List.pairwise_singleton _ _
  | cons first rest ih =>
      obtain ⟨above, inOrder⟩ := List.pairwise_cons.mp ascending
      rw [Keyed.insert]
      split
      · rename_i below
        refine List.pairwise_cons.mpr ⟨?_, ascending⟩
        intro entry member
        rcases List.mem_cons.mp member with rfl | later
        · exact below
        · exact String.lt_trans below (above entry later)
      · rename_i notBelow
        split
        · rename_i same
          exact List.pairwise_cons.mpr ⟨fun entry later => same ▸ above entry later, inOrder⟩
        · rename_i different
          refine List.pairwise_cons.mpr ⟨?_, ih inOrder⟩
          intro entry member
          rcases mem_of_mem_insert member with rfl | later
          · exact lt_of_not_lt notBelow different
          · exact above entry later

theorem Ascending.insert_of_mem {entries : List (String × α)} (ascending : Ascending entries)
    {key : String} {value : α} (present : (key, value) ∈ entries) :
    Keyed.insert key value entries = entries := by
  induction entries with
  | nil => simp at present
  | cons first rest ih =>
      obtain ⟨above, inOrder⟩ := List.pairwise_cons.mp ascending
      rw [Keyed.insert]
      rcases List.mem_cons.mp present with rfl | later
      · simp
      · have greater : first.1 < key := above (key, value) later
        rw [if_neg (String.lt_asymm greater), if_neg (String.ne_of_lt greater).symm,
          ih inOrder later]

theorem insert_of_above {key : String} {value : α} {entries : List (String × α)}
    (above : ∀ entry ∈ entries, entry.1 < key) :
    insert key value entries = entries ++ [(key, value)] := by
  induction entries with
  | nil => rfl
  | cons first rest ih =>
      obtain ⟨greater, above⟩ := List.forall_mem_cons.mp above
      rw [insert, if_neg (String.lt_asymm greater), if_neg (String.ne_of_lt greater).symm, ih above]
      rfl

def insertAll (entries done : List (String × α)) : List (String × α) :=
  entries.foldl (fun sorted entry => insert entry.1 entry.2 sorted) done

theorem insertAll_cons (entry : String × α) (rest done : List (String × α)) :
    insertAll (entry :: rest) done = insertAll rest (insert entry.1 entry.2 done) :=
  rfl

theorem insertAll_of_above {done entries : List (String × α)}
    (ascending : Ascending (done ++ entries)) : insertAll entries done = done ++ entries := by
  induction entries generalizing done with
  | nil => simp [insertAll]
  | cons entry rest ih =>
      have above : ∀ earlier ∈ done, earlier.1 < entry.1 := by
        intro earlier member
        exact (List.pairwise_append.mp ascending).2.2 earlier member entry List.mem_cons_self
      rw [insertAll_cons, insert_of_above above, ih (by simpa using ascending)]
      simp

theorem Ascending.ofList_eq {entries : List (String × α)} (ascending : Ascending entries) :
    ofList entries = entries :=
  insertAll_of_above ascending

theorem Ascending.insertAll_of_mem {entries : List (String × α)} (ascending : Ascending entries)
    {again : List (String × α)} (present : ∀ entry ∈ again, entry ∈ entries) :
    insertAll again entries = entries := by
  induction again with
  | nil => rfl
  | cons entry rest ih =>
      obtain ⟨first, others⟩ := List.forall_mem_cons.mp present
      rw [insertAll_cons, ascending.insert_of_mem first, ih others]

theorem insert_perm {key : String} {value : α} {entries : List (String × α)}
    (fresh : key ∉ keys entries) : insert key value entries ~ (key, value) :: entries := by
  induction entries with
  | nil => exact List.Perm.refl _
  | cons first rest ih =>
      simp only [keys, List.map_cons, List.mem_cons, not_or] at fresh
      obtain ⟨different, fresh⟩ := fresh
      rw [insert, if_neg different]
      split
      · exact List.Perm.refl _
      · exact ((ih fresh).cons first).trans (List.Perm.swap (key, value) first rest)

theorem insertAll_perm {done entries : List (String × α)}
    (distinct : (keys (done ++ entries)).Nodup) : insertAll entries done ~ done ++ entries := by
  induction entries generalizing done with
  | nil => simp [insertAll]
  | cons entry rest ih =>
      have fresh : entry.1 ∉ keys done := by
        intro member
        rw [keys, List.map_append, List.map_cons] at distinct
        exact (List.nodup_append.mp distinct).2.2 entry.1 member entry.1 List.mem_cons_self rfl
      have moved : insert entry.1 entry.2 done ++ rest ~ done ++ entry :: rest :=
        ((insert_perm fresh).append_right rest).trans List.perm_middle.symm
      rw [insertAll_cons]
      exact (ih ((moved.map Prod.fst).nodup_iff.mpr distinct)).trans moved

theorem ofList_perm {entries : List (String × α)} (distinct : (keys entries).Nodup) :
    ofList entries ~ entries :=
  insertAll_perm distinct

theorem get?_cons (key : String) (first : String × α) (rest : List (String × α)) :
    get? key (first :: rest) = if key = first.1 then some first.2 else get? key rest := by
  obtain ⟨other, value⟩ := first
  rw [get?, List.lookup_cons]
  by_cases same : key = other
  · simp [same]
  · have different : (key == other) = false := by simpa using same
    simp [different, same, get?]

theorem get?_eq_head? (key : String) (entries : List (String × α)) :
    get? key entries =
      (entries.filter fun entry => [key].contains entry.1).head?.map Prod.snd := by
  induction entries with
  | nil => rfl
  | cons first rest ih =>
      rw [get?_cons, List.filter_cons]
      by_cases same : key = first.1
      · simp [same]
      · simp [same, ih, Ne.symm same]

theorem get?_insert (sought key : String) (value : α) (entries : List (String × α)) :
    get? sought (insert key value entries) =
      if sought = key then some value else get? sought entries := by
  induction entries with
  | nil => exact get?_cons sought (key, value) []
  | cons first rest ih =>
      rw [insert]
      split
      · exact get?_cons sought (key, value) (first :: rest)
      · split
        · rename_i same
          rw [get?_cons, get?_cons, ← same]
          split <;> rfl
        · rename_i different
          rw [get?_cons, get?_cons, ih]
          by_cases here : sought = first.1
          · simp [here, Ne.symm different]
          · simp [here]

theorem mem_of_get? {key : String} {value : α} {entries : List (String × α)}
    (found : get? key entries = some value) : (key, value) ∈ entries :=
  mem_of_lookup found

theorem Ascending.get?_of_mem {entries : List (String × α)} (ascending : Ascending entries)
    {key : String} {value : α} (present : (key, value) ∈ entries) :
    get? key entries = some value := by
  have distinct : (entries.map Prod.fst).Nodup :=
    List.pairwise_map.mpr (ascending.imp String.ne_of_lt)
  exact (lookup_eq_some_iff_of_nodup distinct key value).mpr present

theorem mem_keys_iff (key : String) (entries : List (String × α)) :
    key ∈ keys entries ↔ ∃ value, get? key entries = some value := by
  rw [← Option.isSome_iff_exists, get?, List.lookup_isSome_iff, keys, List.mem_map]
  refine exists_congr fun entry => and_congr_right fun _ => ?_
  rw [beq_iff_eq, eq_comm]

theorem get?_insertAll (sought : String) (entries done : List (String × α)) :
    get? sought (insertAll entries done) = (get? sought entries.reverse).or (get? sought done) := by
  induction entries generalizing done with
  | nil => rfl
  | cons entry rest ih =>
      have latest : get? sought (rest.reverse ++ [entry]) =
          (get? sought rest.reverse).or (get? sought [entry]) := List.lookup_append
      rw [insertAll_cons, ih, get?_insert, List.reverse_cons, latest, Option.or_assoc, get?_cons]
      split <;> rfl

theorem mem_keys_insert (sought key : String) (value : α) (entries : List (String × α)) :
    sought ∈ keys (insert key value entries) ↔ sought = key ∨ sought ∈ keys entries := by
  induction entries with
  | nil => simp [insert, keys]
  | cons first rest ih =>
      simp only [keys, List.map_cons, List.mem_cons] at ih ⊢
      rw [insert]
      split
      · simp
      · split
        · rename_i same
          simp [same]
        · simp only [List.map_cons, List.mem_cons, ih]
          exact or_left_comm

theorem mem_keys_insertAll (sought : String) (entries done : List (String × α)) :
    sought ∈ keys (insertAll entries done) ↔ sought ∈ keys done ∨ sought ∈ keys entries := by
  induction entries generalizing done with
  | nil => simp [insertAll, keys]
  | cons entry rest ih =>
      have first : keys (entry :: rest) = entry.1 :: keys rest := rfl
      rw [insertAll_cons, ih, mem_keys_insert, first, List.mem_cons, or_assoc, or_left_comm]

theorem Ascending.keys {entries : List (String × α)} (ascending : Ascending entries) :
    (Keyed.keys entries).Pairwise (· < ·) :=
  List.pairwise_map.mpr ascending

theorem Ascending.nodup {entries : List (String × α)} (ascending : Ascending entries) :
    (Keyed.keys entries).Nodup :=
  ascending.keys.imp String.ne_of_lt

theorem get?_of_below {key : String} {first : String × α} {rest : List (String × α)}
    (ascending : Ascending (first :: rest)) (below : key < first.1) :
    get? key (first :: rest) = none := by
  obtain ⟨above, _⟩ := List.pairwise_cons.mp ascending
  rw [Option.eq_none_iff_forall_ne_some]
  intro value found
  rcases List.mem_cons.mp (mem_of_get? found) with rfl | later
  · exact String.lt_irrefl _ below
  · exact String.lt_asymm below (above _ later)

theorem Ascending.sum_insert {entries : List (String × α)} (ascending : Ascending entries)
    (size : α → Nat) (key : String) (value : α) :
    ((Keyed.insert key value entries).map fun entry => size entry.2).sum +
        (get? key entries).elim 0 size =
      (entries.map fun entry => size entry.2).sum + size value := by
  induction entries with
  | nil => simp [Keyed.insert, get?]
  | cons first rest ih =>
      rw [Keyed.insert]
      split
      · rename_i below
        rw [get?_of_below ascending below, Option.elim_none, List.map_cons, List.sum_cons,
          Nat.add_zero, Nat.add_comm]
      · split
        · rename_i same
          rw [get?_cons, if_pos same, Option.elim_some]
          simp only [List.map_cons, List.sum_cons]
          omega
        · rename_i different
          have later := ih (List.pairwise_cons.mp ascending).2
          rw [get?_cons, if_neg different]
          simp only [List.map_cons, List.sum_cons]
          omega

theorem Ascending.insertAll {done : List (String × α)} (ascending : Ascending done)
    (entries : List (String × α)) : Ascending (insertAll entries done) := by
  induction entries generalizing done with
  | nil => exact ascending
  | cons entry rest ih => exact ih (ascending.insert entry.1 entry.2)

end Compliance.Keyed
