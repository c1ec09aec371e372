import Compliance.Proofs.Except
import Compliance.Proofs.Json.Steps

/-!
What a text is taken for where a list is wanted: the same as where any value would do, if that is a
list, and else a fault. A text that is nested too deep for the reader, or holds a number out of its
range, is no value to it and so no list either.
-/

namespace Compliance.Json

/-- The items of the list that a text is read as, if it is read as one. -/
def items? (text : String) : Option (List Json) :=
  match ofText text with
  | .ok (.array items) => some items
  | _ => none

theorem skipSpace_idem (text : List Char) : skipSpace (skipSpace text) = skipSpace text := by
  induction text with
  | nil => rfl
  | cons c rest ih =>
      cases space : isSpace c with
      | true =>
          have skipped : skipSpace (c :: rest) = skipSpace rest := by simp [skipSpace, space]
          rw [skipped, ih]
      | false =>
          have kept := skipSpace_of_visible space rest
          rw [kept, kept]

theorem value_skipSpace (depth fuel : Nat) (text : List Char) :
    value depth (fuel + 1) (skipSpace text) = value depth (fuel + 1) text := by
  rw [value, value, skipSpace_idem]

section Objects

variable {depth fuel : Nat} {text after : List Char} {read : Json}

theorem nextMember_object {done : List (String × Json)}
    (ended : nextMember depth done fuel text = .ok (read, after)) :
    ∃ members, read = .object members := by
  induction fuel generalizing done text with
  | zero => simp [nextMember, failAt] at ended
  | succ fuel ih =>
      rw [nextMember] at ended
      split at ended
      · simp [failAt] at ended
      · simp only [Except.ok.injEq, Prod.mk.injEq] at ended
        exact ⟨done, ended.1.symm⟩
      · split at ended
        · simp [failAt] at ended
        · simp [failOn] at ended
        · split at ended
          · exact ih ended
          · simp at ended
        · simp [failOn] at ended
      · simp [failOn] at ended

theorem firstMember_object (ended : firstMember depth fuel text = .ok (read, after)) :
    ∃ members, read = .object members := by
  cases fuel with
  | zero => simp [firstMember, failAt] at ended
  | succ fuel =>
      rw [firstMember] at ended
      split at ended
      · simp [failAt] at ended
      · simp only [Except.ok.injEq, Prod.mk.injEq] at ended
        exact ⟨[], ended.1.symm⟩
      · split at ended
        · exact nextMember_object ended
        · simp at ended
      · simp [failOn] at ended

theorem value_object {tail : List Char} (ahead : skipSpace text = '\x7b' :: tail)
    (ended : value depth (fuel + 1) text = .ok (read, after)) :
    ∃ members, read = .object members := by
  cases depth with
  | zero =>
      rw [value_of_object_tooDeep ahead] at ended
      simp [failOn] at ended
  | succ inner =>
      rw [value_of_object ahead] at ended
      exact firstMember_object ended

end Objects

theorem listOnly_eq_ok_iff (depth : Nat) (text after : List Char) (items : List Json) :
    listOnly depth text = .ok (items, after) ↔
      value depth (fuelFor text) text = .ok (.array items, after) := by
  have same : value depth (fuelFor text) (skipSpace text) = value depth (fuelFor text) text :=
    value_skipSpace depth _ text
  rw [listOnly]
  split
  · rename_i tail ahead
    simp only [failAt, reduceCtorEq, false_iff]
    intro ended
    obtain ⟨members, other⟩ := value_object ahead ended
    simp at other
  · rw [same]
    split
    · rename_i fault failed
      simp [failed]
    · rename_i found rest listed
      simp [listed]
    · rename_i other rest listed noList
      rw [noList]
      simp only [failAt, reduceCtorEq, Except.ok.injEq, Prod.mk.injEq, false_iff, not_and]
      intro array
      exact absurd array (listed items)

theorem atEnd_eq_ok_iff {α : Type} (reading : Reading α) (read : α) :
    atEnd reading = .ok read ↔ ∃ after, reading = .ok (read, after) ∧ skipSpace after = [] := by
  constructor
  · intro ended
    cases reading with
    | error fault => simp [atEnd] at ended
    | ok pair =>
        obtain ⟨found, after⟩ := pair
        rw [atEnd] at ended
        split at ended
        · rename_i nothing
          exact ⟨after, by rw [Except.ok.inj ended], nothing⟩
        · simp [failOn] at ended
  · rintro ⟨after, rfl, nothing⟩
    simp only [atEnd, nothing]

theorem readList_eq_ok_iff (depth : Nat) (text : List Char) (items : List Json) :
    readList depth text = .ok items ↔ read depth text = .ok (.array items) := by
  rw [readList, read, atEnd_eq_ok_iff, atEnd_eq_ok_iff]
  simp only [listOnly_eq_ok_iff]

theorem items?_eq_some_iff (text : String) (items : List Json) :
    items? text = some items ↔ ofText text = .ok (.array items) := by
  rw [items?]
  split
  · rename_i found listed
    simp [listed]
  · rename_i noList
    simp only [reduceCtorEq, false_iff]
    exact noList items

theorem listOfText_eq_ok_iff (text : String) (items : List Json) :
    listOfText text = .ok items ↔ items? text = some items := by
  rw [items?_eq_some_iff, listOfText, ofText, Except.mapError_eq_ok_iff, Except.mapError_eq_ok_iff,
    readList_eq_ok_iff]

end Compliance.Json
