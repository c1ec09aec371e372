import Compliance.Proofs.Files.Tree

/-!
Names on a path. Those of two paths with a slash between them are the names of both, so a path that
goes on by a name has this name as its last one.
-/

namespace Compliance.Path

/-- A name that something in a directory can have. -/
structure IsName (name : String) : Prop where
  written : name ≠ ""
  whole : '/' ∉ name.toList
  notHere : name ≠ "."
  notAbove : name ≠ ".."

instance : DecidablePred IsName := fun name =>
  decidable_of_iff (name ≠ "" ∧ '/' ∉ name.toList ∧ name ≠ "." ∧ name ≠ "..")
    ⟨fun ⟨written, whole, notHere, notAbove⟩ => ⟨written, whole, notHere, notAbove⟩,
      fun ⟨written, whole, notHere, notAbove⟩ => ⟨written, whole, notHere, notAbove⟩⟩

theorem isAbsolute_iff (path : String) :
    isAbsolute path = true ↔ ∃ rest, path.toList = '/' :: rest := by
  rw [isAbsolute, String.startsWith_string_iff]
  constructor
  · rintro ⟨rest, whole⟩
    exact ⟨rest, whole.symm⟩
  · rintro ⟨rest, whole⟩
    exact ⟨rest, whole.symm⟩

theorem endsWithSlash_iff (path : String) :
    endsWithSlash path = true ↔ ∃ left, path = left ++ "/" := by
  have slice : endsWithSlash path = path.toSlice.endsWith "/" := rfl
  rw [slice, String.Slice.endsWith_string_iff, String.copy_toSlice]
  constructor
  · rintro ⟨left, whole⟩
    refine ⟨String.ofList left, ?_⟩
    rw [← String.toList_inj, String.toList_append, String.toList_ofList, whole]
  · rintro ⟨left, rfl⟩
    exact ⟨left.toList, (String.toList_append).symm⟩

theorem names_slash (left right : String) :
    names (left ++ "/" ++ right) = names left ++ names right := by
  have spelled : (left ++ "/" ++ right).toList = left.toList ++ '/' :: right.toList := by simp
  rw [names_eq, names_eq, names_eq, spelled, List.splitOnP_append_cons _ _ (by rfl),
    List.map_append, List.filter_append]

theorem names_empty : names "" = [] := by
  rw [names_eq]
  decide

theorem splitOnP_slashless {letters : List Char} (slashless : '/' ∉ letters) :
    (letters.splitOnP fun c => c == '/') = [letters] := by
  refine List.splitOnP_eq_singleton fun c member => ?_
  rw [beq_eq_false_iff_ne]
  rintro rfl
  exact slashless member

theorem slashless_of_mem_splitOnP (letters : List Char) :
    ∀ piece ∈ letters.splitOnP fun c => c == '/', '/' ∉ piece := by
  by_cases slashed : '/' ∈ letters
  · obtain ⟨before, after, rfl, slashless⟩ := List.eq_append_cons_of_mem slashed
    intro piece member
    rw [List.splitOnP_append_cons _ _ (by rfl), splitOnP_slashless slashless] at member
    rcases List.mem_cons.mp member with rfl | later
    · exact slashless
    · exact slashless_of_mem_splitOnP after piece later
  · rw [splitOnP_slashless slashed]
    simpa using slashed
termination_by letters.length

theorem mem_names {path name : String} (member : name ∈ names path) :
    name ≠ "" ∧ '/' ∉ name.toList := by
  rw [names_eq] at member
  obtain ⟨split, written⟩ := List.mem_filter.mp member
  obtain ⟨piece, held, rfl⟩ := List.mem_map.mp split
  refine ⟨by simpa using written, ?_⟩
  rw [String.toList_ofList]
  exact slashless_of_mem_splitOnP _ piece held

theorem names_eq_singleton {name : String} (written : name ≠ "") (whole : '/' ∉ name.toList) :
    names name = [name] := by
  rw [names_eq, splitOnP_slashless whole]
  simp [written]

theorem names_intercalate {parts : List String}
    (each : ∀ part ∈ parts, part ≠ "" ∧ '/' ∉ part.toList) :
    names ("/".intercalate parts) = parts := by
  induction parts with
  | nil => exact names_empty
  | cons first rest ih =>
      obtain ⟨⟨written, whole⟩, others⟩ := List.forall_mem_cons.mp each
      cases rest with
      | nil => exact names_eq_singleton written whole
      | cons second more =>
          rw [String.intercalate_cons_cons, names_slash, names_eq_singleton written whole, ih others,
            List.singleton_append]

theorem isAbsolute_intercalate {parts : List String}
    (each : ∀ part ∈ parts, part ≠ "" ∧ '/' ∉ part.toList) :
    isAbsolute ("/".intercalate parts) = false := by
  rw [← Bool.not_eq_true, isAbsolute_iff]
  rintro ⟨letters, rooted⟩
  cases parts with
  | nil => cases rooted
  | cons first rest =>
      obtain ⟨⟨written, whole⟩, _⟩ := List.forall_mem_cons.mp each
      obtain ⟨c, more, spelled⟩ :=
        List.exists_cons_of_ne_nil (mt String.toList_eq_nil_iff.mp written)
      have begins : ∃ others, ("/".intercalate (first :: rest)).toList = c :: others := by
        cases rest with
        | nil => exact ⟨more, spelled⟩
        | cons second others => simp [String.intercalate_cons_cons, spelled]
      obtain ⟨others, begins⟩ := begins
      obtain ⟨rfl, _⟩ := List.cons.inj (begins.symm.trans rooted)
      exact whole (spelled ▸ List.mem_cons_self)

theorem IsName.names_eq {name : String} (isName : IsName name) : names name = [name] :=
  names_eq_singleton isName.written isName.whole

theorem IsName.isAbsolute_eq {name : String} (isName : IsName name) : isAbsolute name = false := by
  rw [← Bool.not_eq_true, isAbsolute_iff]
  rintro ⟨rest, whole⟩
  apply isName.whole
  rw [whole]
  exact List.mem_cons_self

section Join

variable {path name : String} (written : path ≠ "") (isName : IsName name)
include written isName

theorem join_cases :
    (∃ left, path = left ++ "/" ∧ join path name = left ++ "/" ++ name) ∨
      endsWithSlash path = false ∧ join path name = path ++ "/" ++ name := by
  rw [join, isName.isAbsolute_eq, if_neg Bool.false_ne_true,
    String.isEmpty_eq_false_iff.mpr written]
  cases closed : endsWithSlash path with
  | false => exact .inr ⟨rfl, rfl⟩
  | true =>
      obtain ⟨left, rfl⟩ := (endsWithSlash_iff path).mp closed
      exact .inl ⟨left, rfl, rfl⟩

theorem names_join : names (join path name) = names path ++ [name] := by
  rcases join_cases written isName with ⟨left, rfl, joined⟩ | ⟨_, joined⟩
  · have same : names (left ++ "/") = names left := by
      have closed := names_slash left ""
      rwa [String.append_empty, names_empty, List.append_nil] at closed
    rw [joined, names_slash, isName.names_eq, same]
  · rw [joined, names_slash, isName.names_eq]

theorem join_ne_empty : join path name ≠ "" := by
  rcases join_cases written isName with ⟨left, rfl, joined⟩ | ⟨_, joined⟩
  all_goals
    rw [joined, Ne, ← String.toList_inj]
    simp

theorem isAbsolute_join : isAbsolute (join path name) = isAbsolute path := by
  rw [Bool.eq_iff_iff, isAbsolute_iff, isAbsolute_iff]
  obtain ⟨first, letters, begins⟩ :=
    List.exists_cons_of_ne_nil (mt String.toList_eq_nil_iff.mp written)
  rcases join_cases written isName with ⟨left, rfl, joined⟩ | ⟨_, joined⟩
  · rw [joined, String.toList_append, begins]
    simp
  · rw [joined, String.toList_append, String.toList_append, begins]
    simp

theorem endsWithSlash_join : endsWithSlash (join path name) = false := by
  rw [← Bool.not_eq_true, endsWithSlash_iff]
  rintro ⟨left, whole⟩
  have closing : (join path name).toList.getLast? = name.toList.getLast? := by
    have named : name.toList ≠ [] := mt String.toList_eq_nil_iff.mp isName.written
    rcases join_cases written isName with ⟨_, _, joined⟩ | ⟨_, joined⟩
    all_goals rw [joined, String.toList_append, List.getLast?_append_of_ne_nil _ named]
  rw [whole, String.toList_append, show "/".toList = ['/'] from rfl,
    List.getLast?_concat] at closing
  exact isName.whole (List.mem_of_getLast? closing.symm)

end Join

section Parent

variable {path name : String} {above : List String}

theorem exists_components (whole : names path = above ++ [name]) (notHere : name ≠ ".") :
    ∃ kept, components path = kept ++ [name] ∧ (kept = above.filter (· != ".") ∨
      ∃ rest, above = "." :: rest ∧ kept = "." :: rest.filter (· != ".")) := by
  have last : [name].filter (· != ".") = [name] := by simp [notHere]
  rw [components, whole]
  split
  · rename_i rest _ same
    cases above with
    | nil => exact absurd (List.cons.inj same).1 notHere
    | cons here others =>
        rw [List.cons_append] at same
        obtain ⟨rfl, rfl⟩ := List.cons.inj same
        exact ⟨_, by rw [List.filter_append, last, List.cons_append], .inr ⟨others, rfl, rfl⟩⟩
  · exact ⟨_, by rw [List.filter_append, last], .inl rfl⟩

theorem exists_parent (whole : names path = above ++ [name]) (notHere : name ≠ ".") :
    ∃ parent, parent? path = some parent ∧ isAbsolute parent = isAbsolute path ∧
      (names parent = above.filter (· != ".") ∨
        ∃ rest, above = "." :: rest ∧ names parent = "." :: rest.filter (· != ".")) := by
  obtain ⟨kept, components, without⟩ := exists_components whole notHere
  have each : ∀ part ∈ kept, part ≠ "" ∧ '/' ∉ part.toList := by
    intro part member
    have named : part ∈ names path := by
      rw [whole]
      rcases without with rfl | ⟨rest, rfl, rfl⟩
      · exact List.mem_append_left _ (List.mem_of_mem_filter member)
      · rcases List.mem_cons.mp member with rfl | later
        · exact List.mem_cons_self
        · exact List.mem_cons_of_mem _ (List.mem_append_left _ (List.mem_of_mem_filter later))
    exact mem_names named
  have parent : parent? path =
      some ((if isAbsolute path then "/" else "") ++ "/".intercalate kept) := by
    rw [parent?, components]
    cases kept with
    | nil => rfl
    | cons first rest =>
        change some (_ ++ "/".intercalate (first :: rest ++ [name]).dropLast) = _
        rw [List.dropLast_concat]
  refine ⟨_, parent, ?_⟩
  cases absolute : isAbsolute path with
  | false =>
      rw [if_neg Bool.false_ne_true, String.empty_append, names_intercalate each]
      exact ⟨isAbsolute_intercalate each, without⟩
  | true =>
      have rooted : names ("/" ++ "/".intercalate kept) = kept := by
        have split := names_slash "" ("/".intercalate kept)
        rwa [String.empty_append, names_empty, List.nil_append, names_intercalate each] at split
      rw [if_pos rfl, rooted]
      exact ⟨(isAbsolute_iff _).mpr ⟨_, String.toList_append⟩, without⟩

end Parent

section Extension

variable {path name : String}

end Extension

end Compliance.Path
