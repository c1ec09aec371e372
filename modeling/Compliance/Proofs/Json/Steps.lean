import Compliance.Json.Printer
import Compliance.Json.Reader

/-!
What each reader does next, told by the first character that is not a space.
-/

namespace Compliance.Json

theorem skipSpace_of_visible {c : Char} (visible : isSpace c = false) (text : List Char) :
    skipSpace (c :: text) = c :: text := by
  simp [skipSpace, visible]

theorem skipSpace_newLine (level : Nat) (text : List Char) :
    skipSpace (newLine level ++ text) = skipSpace text := by
  have spaces (count : Nat) : skipSpace (List.replicate count ' ' ++ text) = skipSpace text := by
    induction count with
    | zero => rfl
    | succ count ih =>
        rw [List.replicate_succ, List.cons_append]
        exact ih
  exact spaces (2 * level)

section Values

variable {depth fuel : Nat} {text tail : List Char}

theorem value_of_space (space : Char) (isSpace : isSpace space = true) :
    value depth fuel.succ (space :: text) = value depth fuel.succ text := by
  rw [value, value, skipSpace, List.dropWhile_cons, if_pos isSpace]
  rfl

theorem value_of_string (ahead : skipSpace text = '"' :: tail) :
    value depth (fuel + 1) text =
      (stringRest [] fuel tail).bind fun (read, after) => .ok (.string read, after) := by
  simp only [value, ahead]
  cases stringRest [] fuel tail <;> rfl

theorem value_of_list (ahead : skipSpace text = '[' :: tail) :
    value (depth + 1) (fuel + 1) text = firstItem depth fuel tail := by
  simp only [value, ahead]

theorem value_of_list_tooDeep (ahead : skipSpace text = '[' :: tail) :
    value 0 (fuel + 1) text = failOn .nestedTooDeep ('[' :: tail) := by
  simp only [value, ahead]

theorem value_of_object (ahead : skipSpace text = '\x7b' :: tail) :
    value (depth + 1) (fuel + 1) text = firstMember depth fuel tail := by
  simp only [value, ahead]

theorem value_of_object_tooDeep (ahead : skipSpace text = '\x7b' :: tail) :
    value 0 (fuel + 1) text = failOn .nestedTooDeep ('\x7b' :: tail) := by
  simp only [value, ahead]

end Values

section Items

variable {depth fuel : Nat} {text tail : List Char} {c : Char}

theorem firstItem_of_end (ahead : skipSpace text = ']' :: tail) :
    firstItem depth (fuel + 1) text = .ok (.array [], tail) := by
  simp only [firstItem, ahead]

theorem firstItem_of_item (ahead : skipSpace text = c :: tail) (more : c ≠ ']') :
    firstItem depth (fuel + 1) text =
      (value depth fuel (c :: tail)).bind fun (item, after) =>
        nextItem depth [item] fuel after := by
  simp only [firstItem, ahead]
  split
  · rename_i none
    simp at none
  · rename_i closed
    exact absurd (List.cons.inj closed).1 more
  · cases value depth fuel (c :: tail) <;> rfl

theorem nextItem_of_end (done : List Json) (ahead : skipSpace text = ']' :: tail) :
    nextItem depth done (fuel + 1) text = .ok (.array done.reverse, tail) := by
  simp only [nextItem, ahead]

theorem nextItem_of_item (done : List Json) {between : List Char}
    (comma : skipSpace text = ',' :: between) (ahead : skipSpace between = c :: tail)
    (more : c ≠ ']') :
    nextItem depth done (fuel + 1) text =
      (value depth fuel (c :: tail)).bind fun (item, after) =>
        nextItem depth (item :: done) fuel after := by
  simp only [nextItem, comma, ahead]
  split
  · rename_i none
    simp at none
  · rename_i closed
    exact absurd (List.cons.inj closed).1 more
  · cases value depth fuel (c :: tail) <;> rfl

end Items

section Members

variable {depth fuel : Nat} {text tail : List Char}

theorem firstMember_of_end (ahead : skipSpace text = '\x7d' :: tail) :
    firstMember depth (fuel + 1) text = .ok (.object [], tail) := by
  simp only [firstMember, ahead]

theorem firstMember_of_key (ahead : skipSpace text = '"' :: tail) :
    firstMember depth (fuel + 1) text =
      (member depth fuel tail).bind fun ((key, read), after) =>
        nextMember depth [(key, read)] fuel after := by
  simp only [firstMember, ahead]
  cases member depth fuel tail <;> rfl

theorem nextMember_of_end (done : List (String × Json)) (ahead : skipSpace text = '\x7d' :: tail) :
    nextMember depth done (fuel + 1) text = .ok (.object done, tail) := by
  simp only [nextMember, ahead]

theorem nextMember_of_key (done : List (String × Json)) {between : List Char}
    (comma : skipSpace text = ',' :: between) (ahead : skipSpace between = '"' :: tail) :
    nextMember depth done (fuel + 1) text =
      (member depth fuel tail).bind fun ((key, read), after) =>
        nextMember depth (Keyed.insert key read done) fuel after := by
  simp only [nextMember, comma, ahead]
  cases member depth fuel tail <;> rfl

theorem member_of_colon {key : String} {after : List Char}
    (named : stringRest [] fuel text = .ok (key, after))
    (ahead : skipSpace after = ':' :: tail) :
    member depth (fuel + 1) text =
      (value depth fuel tail).bind fun (read, left) => .ok ((key, read), left) := by
  simp only [member, named, ahead]
  cases value depth fuel tail <;> rfl

end Members

theorem listOnly_of_other {depth : Nat} {text tail : List Char} {c : Char}
    (ahead : skipSpace text = c :: tail) (other : c ≠ '\x7b') :
    listOnly depth text = (value depth (fuelFor text) (c :: tail)).bind fun (read, after) =>
      match read with
      | .array items => .ok (items, after)
      | other => failAt (.notList other) after := by
  rw [listOnly, ahead]
  split
  · rename_i opened
    exact absurd (List.cons.inj opened).1 other
  · cases value depth (fuelFor text) (c :: tail) with
    | error fault => rfl
    | ok pair =>
        obtain ⟨read, after⟩ := pair
        cases read <;> rfl

end Compliance.Json
