import Compliance.Proofs.Json.Parts
import Compliance.Proofs.Json.Steps
import Compliance.Proofs.Json.Strings

/-!
Printed values are read back, with their members in order, as long as no more lists and objects are
open at once than the reader allows; beyond that the reader says so. Numbers are left aside.
-/

namespace Compliance.Json

/-- The reading comes to a value and the text after it if it fits, and to a refusal if not. -/
def Reads {α : Type} (fits : Prop) (reading : Reading α) (value : α) (rest : List Char) : Prop :=
  (fits → reading = .ok (value, rest)) ∧ (¬ fits → ∃ ahead, reading = failOn .nestedTooDeep ahead)

namespace Reads

variable {α β : Type} {left right : Prop}

theorem of_ok {reading : Reading α} {value : α} {rest : List Char} (fits : left)
    (read : reading = .ok (value, rest)) : Reads left reading value rest :=
  ⟨fun _ => read, fun tooDeep => absurd fits tooDeep⟩

theorem congr {reading : Reading α} {value : α} {rest : List Char} (same : left ↔ right)
    (reads : Reads left reading value rest) : Reads right reading value rest :=
  ⟨fun fits => reads.1 (same.mpr fits), fun tooDeep => reads.2 (mt same.mp tooDeep)⟩

theorem bind {first : Reading α} {value : α} {between : List Char}
    {next : α × List Char → Reading β} {result : β} {rest : List Char}
    (readsFirst : Reads left first value between)
    (readsNext : Reads right (next (value, between)) result rest) :
    Reads (left ∧ right) (first.bind next) result rest := by
  constructor
  · rintro ⟨fitsFirst, fitsNext⟩
    rw [readsFirst.1 fitsFirst]
    exact readsNext.1 fitsNext
  · intro tooDeep
    by_cases fitsFirst : left
    · rw [readsFirst.1 fitsFirst]
      exact readsNext.2 fun fitsNext => tooDeep ⟨fitsFirst, fitsNext⟩
    · obtain ⟨ahead, refused⟩ := readsFirst.2 fitsFirst
      exact ⟨ahead, by rw [refused]; rfl⟩

theorem map {reading : Reading α} {value : α} {rest : List Char}
    (reads : Reads left reading value rest) (f : α → β) :
    Reads left (reading.bind fun (read, after) => .ok (f read, after)) (f value) rest := by
  constructor
  · intro fits
    rw [reads.1 fits]
    rfl
  · intro tooDeep
    obtain ⟨ahead, refused⟩ := reads.2 tooDeep
    exact ⟨ahead, by rw [refused]; rfl⟩

end Reads

/-- Printed at a level, the value is read back from every text that it begins. -/
def ReadsBack (level : Nat) (printed : Json) : Prop :=
  ∀ depth fuel rest, (prettyAt level printed).length ≤ fuel →
    Reads (printed.height ≤ depth) (value depth fuel (prettyAt level printed ++ rest))
      printed.sorted rest

theorem length_newLine (level : Nat) : (newLine level).length = 2 * level + 1 := by
  simp [newLine]

theorem Numberless.head {printed : Json} (numberless : printed.Numberless) (level : Nat) :
    ∃ c tail, prettyAt level printed = c :: tail ∧ isSpace c = false ∧ c ≠ ']' := by
  cases numberless with
  | null => exact ⟨'n', _, rfl, by decide⟩
  | bool value => cases value <;> exact ⟨_, _, rfl, by decide⟩
  | string text => exact ⟨'"', _, rfl, by decide⟩
  | array items _ => cases items <;> exact ⟨'[', _, rfl, by decide⟩
  | object members _ => cases members <;> exact ⟨'\x7b', _, rfl, by decide⟩

theorem nextItem_prettyItems {level : Nat} {items : List Json}
    (numberless : ∀ item ∈ items, item.Numberless) (back : ∀ item ∈ items, ReadsBack level item)
    (closing depth fuel : Nat) (done : List Json) (rest : List Char)
    (enough : (prettyItems level items).length < fuel) :
    Reads (itemsHeight items ≤ depth)
      (nextItem depth done fuel (prettyItems level items ++ (newLine closing ++ ']' :: rest)))
      (.array (done.reverse ++ sortedItems items)) rest := by
  obtain ⟨fuel, rfl⟩ := Nat.exists_eq_succ_of_ne_zero (Nat.ne_zero_of_lt enough)
  induction items generalizing done fuel with
  | nil =>
      refine Reads.of_ok (Nat.zero_le depth) ?_
      rw [prettyItems, List.nil_append, sortedItems, List.append_nil]
      refine nextItem_of_end done ?_
      rw [skipSpace_newLine, skipSpace_of_visible rfl]
  | cons item others ih =>
      obtain ⟨first, numberless⟩ := List.forall_mem_cons.mp numberless
      obtain ⟨backFirst, back⟩ := List.forall_mem_cons.mp back
      obtain ⟨c, tail, head, visible, more⟩ := first.head level
      -- the comma pays for the step to the item, and the item for itself
      simp only [prettyItems, List.length_cons, List.length_append, length_newLine] at enough
      obtain ⟨less, rfl⟩ := Nat.exists_eq_succ_of_ne_zero (n := fuel) (by omega)
      simp only [prettyItems, List.cons_append, List.append_assoc]
      rw [nextItem_of_item done (skipSpace_of_visible rfl _)
        (by rw [skipSpace_newLine, head, List.cons_append, skipSpace_of_visible visible]) more,
        ← List.cons_append, ← head]
      have readsFirst := backFirst depth less.succ
        (prettyItems level others ++ (newLine closing ++ ']' :: rest)) (by omega)
      have readsNext := ih numberless back (item.sorted :: done) less (by omega)
      rw [List.reverse_cons, List.append_assoc, List.singleton_append, ← sortedItems] at readsNext
      exact (readsFirst.bind readsNext).congr Nat.max_le.symm

theorem member_written {level : Nat} {printed : Json} (back : ReadsBack level printed)
    (key : String) (depth fuel : Nat) (rest : List Char)
    (enough : (stringText key).length + (prettyAt level printed).length ≤ fuel) :
    Reads (printed.height ≤ depth)
      (member depth fuel (key.toList.flatMap escapedChar ++
        '"' :: ':' :: ' ' :: (prettyAt level printed ++ rest)))
      (key, printed.sorted) rest := by
  have quotes : 2 ≤ (stringText key).length := by simp [stringText]
  obtain ⟨less, rfl⟩ := Nat.exists_eq_add_of_le' (show 2 ≤ fuel by omega)
  rw [member_of_colon (stringRest_of_text key _ _ (by omega)) (skipSpace_of_visible rfl _),
    value_of_space ' ' rfl]
  exact (back depth (less + 1) rest (by omega)).map fun read => (key, read)

theorem nextMember_prettyMembers {level : Nat} {members : List (String × Json)}
    (back : ∀ member ∈ members, ReadsBack level member.2) (closing depth fuel : Nat)
    (done : List (String × Json)) (rest : List Char)
    (enough : (prettyMembers level members).length < fuel) :
    Reads (membersHeight members ≤ depth)
      (nextMember depth done fuel
        (prettyMembers level members ++ (newLine closing ++ '\x7d' :: rest)))
      (.object (Keyed.insertAll (sortedMembers members) done)) rest := by
  obtain ⟨fuel, rfl⟩ := Nat.exists_eq_succ_of_ne_zero (Nat.ne_zero_of_lt enough)
  induction members generalizing done fuel with
  | nil =>
      refine Reads.of_ok (Nat.zero_le depth) ?_
      rw [prettyMembers, List.nil_append]
      refine nextMember_of_end done ?_
      rw [skipSpace_newLine, skipSpace_of_visible rfl]
  | cons entry others ih =>
      obtain ⟨key, printed⟩ := entry
      obtain ⟨backFirst, back⟩ := List.forall_mem_cons.mp back
      change ReadsBack level printed at backFirst
      simp only [prettyMembers, List.length_cons, List.length_append, length_newLine,
        List.length_nil] at enough
      obtain ⟨less, rfl⟩ := Nat.exists_eq_succ_of_ne_zero (n := fuel) (by omega)
      simp only [prettyMembers, stringText, List.cons_append, List.append_assoc, List.nil_append]
      rw [nextMember_of_key done (skipSpace_of_visible rfl _)
        (by rw [skipSpace_newLine, skipSpace_of_visible rfl])]
      have readsFirst := member_written backFirst key depth less.succ
        (prettyMembers level others ++ (newLine closing ++ '\x7d' :: rest)) (by omega)
      have readsNext := ih back (Keyed.insert key printed.sorted done) less (by omega)
      exact (readsFirst.bind readsNext).congr Nat.max_le.symm

theorem Reads.list {height fuel : Nat} {tail rest : List Char} {read : Json}
    (inner : ∀ depth, Reads (height ≤ depth) (firstItem depth fuel tail) read rest) (depth : Nat) :
    Reads (height + 1 ≤ depth) (value depth (fuel + 1) ('[' :: tail)) read rest := by
  have ahead : skipSpace ('[' :: tail) = '[' :: tail := skipSpace_of_visible rfl tail
  cases depth with
  | zero =>
      rw [value_of_list_tooDeep ahead]
      exact ⟨fun fits => absurd fits (Nat.not_succ_le_zero height), fun _ => ⟨_, rfl⟩⟩
  | succ depth =>
      rw [value_of_list ahead]
      exact (inner depth).congr Nat.succ_le_succ_iff.symm

theorem Reads.object {height fuel : Nat} {tail rest : List Char} {read : Json}
    (inner : ∀ depth, Reads (height ≤ depth) (firstMember depth fuel tail) read rest)
    (depth : Nat) :
    Reads (height + 1 ≤ depth) (value depth (fuel + 1) ('\x7b' :: tail)) read rest := by
  have ahead : skipSpace ('\x7b' :: tail) = '\x7b' :: tail := skipSpace_of_visible rfl tail
  cases depth with
  | zero =>
      rw [value_of_object_tooDeep ahead]
      exact ⟨fun fits => absurd fits (Nat.not_succ_le_zero height), fun _ => ⟨_, rfl⟩⟩
  | succ depth =>
      rw [value_of_object ahead]
      exact (inner depth).congr Nat.succ_le_succ_iff.symm

theorem readsBack_array {items : List Json} (numberless : ∀ item ∈ items, item.Numberless)
    (back : ∀ item ∈ items, ∀ level, ReadsBack level item) (level : Nat) :
    ReadsBack level (.array items) := by
  intro depth fuel rest enough
  cases items with
  | nil =>
      obtain ⟨less, rfl⟩ := Nat.exists_eq_add_of_le' (show 2 ≤ fuel from enough)
      exact Reads.list (fun depth => Reads.of_ok (Nat.zero_le depth)
        (firstItem_of_end (skipSpace_of_visible rfl rest))) depth
  | cons item others =>
      obtain ⟨first, numberless⟩ := List.forall_mem_cons.mp numberless
      obtain ⟨c, tail, head, visible, more⟩ := first.head (level + 1)
      simp only [prettyAt, List.length_cons, List.length_append, length_newLine,
        List.length_nil] at enough
      -- the bracket and the line break after it pay for the two steps down
      obtain ⟨less, rfl⟩ := Nat.exists_eq_add_of_le' (show 2 ≤ fuel by omega)
      simp only [prettyAt, List.cons_append, List.append_assoc, List.nil_append]
      refine Reads.list (fun depth => ?_) depth
      rw [firstItem_of_item
        (by rw [skipSpace_newLine, head, List.cons_append, skipSpace_of_visible visible]) more,
        ← List.cons_append, ← head]
      have readsFirst := back item List.mem_cons_self (level + 1) depth less
        (prettyItems (level + 1) others ++ (newLine level ++ ']' :: rest)) (by omega)
      have readsNext := nextItem_prettyItems numberless
        (fun other member => back other (List.mem_cons_of_mem item member) (level + 1)) level depth
        less [item.sorted] rest (by omega)
      exact (readsFirst.bind readsNext).congr Nat.max_le.symm

theorem readsBack_object {members : List (String × Json)}
    (back : ∀ member ∈ members, ∀ level, ReadsBack level member.2) (level : Nat) :
    ReadsBack level (.object members) := by
  intro depth fuel rest enough
  cases members with
  | nil =>
      obtain ⟨less, rfl⟩ := Nat.exists_eq_add_of_le' (show 2 ≤ fuel from enough)
      exact Reads.object (fun depth => Reads.of_ok (Nat.zero_le depth)
        (firstMember_of_end (skipSpace_of_visible rfl rest))) depth
  | cons entry others =>
      obtain ⟨key, printed⟩ := entry
      have backFirst : ReadsBack (level + 1) printed := back (key, printed) List.mem_cons_self _
      simp only [prettyAt, List.length_cons, List.length_append, length_newLine,
        List.length_nil] at enough
      obtain ⟨less, rfl⟩ := Nat.exists_eq_add_of_le' (show 3 ≤ fuel by omega)
      simp only [prettyAt, stringText, List.cons_append, List.append_assoc, List.nil_append]
      refine Reads.object (fun depth => ?_) depth
      rw [firstMember_of_key (by rw [skipSpace_newLine, skipSpace_of_visible rfl])]
      have readsFirst := member_written backFirst key depth (less + 1)
        (prettyMembers (level + 1) others ++ (newLine level ++ '\x7d' :: rest)) (by omega)
      have readsNext := nextMember_prettyMembers
        (fun other member => back other (List.mem_cons_of_mem _ member) (level + 1)) level depth
        (less + 1) [(key, printed.sorted)] rest (by omega)
      exact (readsFirst.bind readsNext).congr Nat.max_le.symm

theorem Numberless.readsBack {printed : Json} (numberless : printed.Numberless) :
    ∀ level, ReadsBack level printed := by
  induction numberless with
  | null =>
      intro level depth fuel rest enough
      obtain ⟨less, rfl⟩ := Nat.exists_eq_add_of_le' (show 4 ≤ fuel from enough)
      refine Reads.of_ok (Nat.zero_le depth) ?_
      simp [prettyAt, value, skipSpace, isSpace, word, sorted]
  | bool written =>
      intro level depth fuel rest enough
      refine Reads.of_ok (Nat.zero_le depth) ?_
      cases fuel with
      | zero => cases written <;> simp [prettyAt] at enough
      | succ less => cases written <;> simp [prettyAt, value, skipSpace, isSpace, word, sorted]
  | string text =>
      intro level depth fuel rest enough
      rw [prettyAt] at enough ⊢
      cases fuel with
      | zero => simp [stringText] at enough
      | succ less =>
          refine Reads.of_ok (Nat.zero_le depth) ?_
          simp only [stringText, List.cons_append, List.append_assoc, List.nil_append]
          rw [value_of_string (skipSpace_of_visible rfl _),
            stringRest_of_text text less rest enough]
          rfl
  | array items inner ih => exact readsBack_array inner ih
  | object members inner ih => exact readsBack_object ih

theorem listOnly_prettyAt {items : List Json} (numberless : ∀ item ∈ items, item.Numberless)
    (depth : Nat) :
    Reads ((array items).height ≤ depth) (listOnly depth (prettyAt 0 (.array items)))
      (sortedItems items) [] := by
  obtain ⟨tail, opened⟩ : ∃ tail, prettyAt 0 (.array items) = '[' :: tail := by
    cases items <;> exact ⟨_, rfl⟩
  have reads := (Numberless.array items numberless).readsBack 0 depth
    (fuelFor (prettyAt 0 (.array items))) [] (by simp only [fuelFor]; omega)
  rw [List.append_nil] at reads
  rw [listOnly_of_other (by rw [opened, skipSpace_of_visible rfl]) (by decide), ← opened]
  have readsItems : Reads True
      (.ok (sortedItems items, []) : Reading (List Json)) (sortedItems items) [] :=
    Reads.of_ok trivial rfl
  exact (reads.bind readsItems).congr (and_iff_left trivial)

/-- A printed list is read back whole, or turned down because it is nested too deep. -/
theorem listOfText_pretty {items : List Json} (numberless : ∀ item ∈ items, item.Numberless) :
    ((array items).height ≤ nestingLimit →
        listOfText (array items).pretty = .ok (sortedItems items)) ∧
      (¬ (array items).height ≤ nestingLimit → ∃ fault : Fault, fault.cause = .nestedTooDeep ∧
        listOfText (array items).pretty =
          .error (fault.message (array items).pretty.toList)) := by
  have reads := listOnly_prettyAt numberless nestingLimit
  simp only [listOfText, pretty, String.toList_ofList, readList]
  constructor
  · intro fits
    rw [reads.1 fits]
    rfl
  · intro tooDeep
    obtain ⟨ahead, refused⟩ := reads.2 tooDeep
    refine ⟨⟨.nestedTooDeep, ahead, 1⟩, rfl, ?_⟩
    rw [refused]
    rfl

end Compliance.Json
