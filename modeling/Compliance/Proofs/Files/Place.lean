import Compliance.Files.Write
import Compliance.Proofs.Except
import Compliance.Proofs.Files.Resolution

/-!
The place that a path names: the directory before its last name, and this name, whatever stands
there. A tree with the same directories and links has the same places.
-/

namespace Compliance.FileTree

variable {tree other : FileTree} {path name : String} {base location : Location}
  {names : List String} {links : Nat}

theorem exists_directory_of_resolve {more : List String} {place : Location × Entry}
    (onward : more ≠ []) (found : tree.resolve true links base (names ++ more) = .ok place) :
    ∃ location, tree.resolve true links base names = .ok (location, .directory) := by
  induction links, base, names using tree.resolve_induction with
  | done links base => exact ⟨base, resolve_nil ..⟩
  | point links base rest ih =>
      rw [List.cons_append, resolve_point] at found
      rw [resolve_point]
      exact ih found
  | above links base rest ih =>
      rw [List.cons_append, resolve_above] at found
      rw [resolve_above]
      exact ih found
  | lost links base name rest error notHere notAbove held =>
      rw [List.cons_append, resolve_lost notHere notAbove held] at found
      cases found
  | down links base name rest notHere notAbove held ih =>
      rw [List.cons_append, resolve_down notHere notAbove held] at found
      rw [resolve_down notHere notAbove held]
      exact ih found
  | file links base name rest content notHere notAbove held =>
      rw [List.cons_append, resolve_file notHere notAbove held, if_neg (by simp [onward])] at found
      cases found
  | exhausted base name rest target notHere notAbove held =>
      rw [List.cons_append, resolve_exhausted notHere notAbove held, if_neg (by simp)] at found
      cases found
  | link links base name rest target notHere notAbove held ih =>
      rw [List.cons_append, resolve_link notHere notAbove held, if_neg (by simp),
        ← List.append_assoc] at found
      rw [resolve_link notHere notAbove held, if_neg (by simp)]
      exact ih found

theorem resolve_point_last_iff {entry : Entry} :
    tree.resolve true links base (names ++ ["."]) = .ok (location, entry) ↔
      tree.resolve true links base names = .ok (location, entry) ∧ entry = .directory := by
  have closed {inner : Location}
      (reached : tree.resolve true links base names = .ok (inner, .directory)) :
      tree.resolve true links base (names ++ ["."]) = .ok (inner, .directory) := by
    obtain ⟨left, onward⟩ := resolve_append reached
    rw [onward true ["."] (List.cons_ne_nil "." []), resolve_point, resolve_nil]
  constructor
  · intro found
    obtain ⟨inner, reached⟩ := exists_directory_of_resolve (List.cons_ne_nil "." []) found
    obtain ⟨rfl, rfl⟩ := Prod.mk.inj (Except.ok.inj ((closed reached).symm.trans found))
    exact ⟨reached, rfl⟩
  · rintro ⟨reached, rfl⟩
    exact closed reached

theorem resolve_without_points (before : List String)
    (found : tree.resolve true links base (before ++ names) = .ok (location, .directory)) :
    tree.resolve true links base (before ++ names.filter (· != ".")) =
      .ok (location, .directory) := by
  induction names generalizing before with
  | nil => exact found
  | cons name rest ih =>
      by_cases point : name = "."
      · subst point
        rw [List.filter_cons_of_neg (by simp)]
        refine ih before (resolve_point_last_iff.mp ?_).1
        have pointed := resolve_point_last_iff.mpr ⟨found, rfl⟩
        rwa [List.append_assoc, List.cons_append,
          resolve_append_point _ _ _ _ _ (by simp), ← List.append_assoc] at pointed
      · rw [List.filter_cons_of_pos (by simpa using point)]
        have onward := ih (before ++ [name])
        simp only [List.append_assoc, List.singleton_append] at onward
        exact onward found

/-- Whatever a way to a directory can lead through is in the other tree as well. -/
structure Within (tree other : FileTree) : Prop where
  here : tree.here = other.here
  denies : tree.denies = other.denies
  directory : ∀ location, tree.at? location = some .directory →
    other.at? location = some .directory
  link : ∀ location target, tree.at? location = some (.link target) →
    other.at? location = some (.link target)

theorem within_of_others {place : Location} (here : tree.here = other.here)
    (denies : tree.denies = other.denies)
    (others : ∀ location, location ≠ place → tree.at? location = other.at? location)
    (noDirectory : tree.at? place ≠ some .directory)
    (noLink : ∀ link, tree.at? place ≠ some (.link link)) : tree.Within other where
  here := here
  denies := denies
  directory := by
    intro location held
    rwa [← others location fun same => noDirectory (same ▸ held)]
  link := by
    intro location link held
    rwa [← others location fun same => noLink link (same ▸ held)]

theorem within_put {entry : Entry} (noDirectory : tree.at? location ≠ some .directory)
    (noLink : ∀ link, tree.at? location ≠ some (.link link)) :
    tree.Within (tree.put location entry) :=
  within_of_others rfl rfl (fun _ apart => (tree.at?_put_of_ne apart entry).symm) noDirectory noLink

theorem within_erase (noDirectory : tree.at? location ≠ some .directory)
    (noLink : ∀ link, tree.at? location ≠ some (.link link)) :
    tree.Within (tree.erase location) :=
  within_of_others rfl rfl (fun _ apart => (tree.at?_erase_of_ne apart).symm) noDirectory noLink

theorem within_of_put_file {content : ByteArray} (below : location ≠ []) :
    (tree.put location (.file content)).Within tree := by
  have file := tree.at?_put below (.file content)
  exact within_of_others rfl rfl (fun _ apart => tree.at?_put_of_ne apart _) (by simp [file])
    (by simp [file])

theorem Within.look_directory (within : tree.Within other)
    (held : tree.look base name = .ok .directory) : other.look base name = .ok .directory := by
  rw [look_eq_ok_iff, ← within.denies]
  obtain ⟨searchable, directory⟩ := look_eq_ok_iff.mp held
  exact ⟨searchable, within.directory _ directory⟩

theorem Within.look_link (within : tree.Within other) {target : String}
    (held : tree.look base name = .ok (.link target)) :
    other.look base name = .ok (.link target) := by
  rw [look_eq_ok_iff, ← within.denies]
  obtain ⟨searchable, link⟩ := look_eq_ok_iff.mp held
  exact ⟨searchable, within.link _ _ link⟩

theorem Within.resolve_eq (within : tree.Within other)
    (found : tree.resolve true links base names = .ok (location, .directory)) :
    other.resolve true links base names = .ok (location, .directory) := by
  induction links, base, names using tree.resolve_induction with
  | done links base => rwa [resolve_nil] at found ⊢
  | point links base rest ih =>
      rw [resolve_point] at found ⊢
      exact ih found
  | above links base rest ih =>
      rw [resolve_above] at found ⊢
      exact ih found
  | lost links base name rest error notHere notAbove held =>
      rw [resolve_lost notHere notAbove held] at found
      cases found
  | down links base name rest notHere notAbove held ih =>
      rw [resolve_down notHere notAbove held] at found
      rw [resolve_down notHere notAbove (within.look_directory held)]
      exact ih found
  | file links base name rest content notHere notAbove held =>
      rw [resolve_file notHere notAbove held] at found
      split at found
      all_goals cases found
  | exhausted base name rest target notHere notAbove held =>
      rw [resolve_exhausted notHere notAbove held] at found
      simp at found
  | link links base name rest target notHere notAbove held ih =>
      rw [resolve_link notHere notAbove held, if_neg (by simp)] at found
      rw [resolve_link notHere notAbove (within.look_link held), if_neg (by simp)]
      exact ih found

theorem directoryAt_eq_ok_iff {absolute : Bool} :
    tree.directoryAt absolute names = .ok base ↔
      tree.resolve true linkLimit (if absolute then [] else tree.here) names =
        .ok (base, .directory) := by
  rw [directoryAt, locateNames]
  constructor
  · intro found
    cases reached : tree.resolve true linkLimit (if absolute then [] else tree.here)
        (names ++ ["."]) with
    | error error =>
        rw [reached] at found
        cases found
    | ok place =>
        rw [reached] at found
        obtain rfl := Except.ok.inj found
        obtain ⟨known, directory⟩ := resolve_point_last_iff.mp reached
        rwa [directory] at known
  · intro found
    rw [resolve_point_last_iff.mpr ⟨found, rfl⟩]
    rfl

theorem Within.directoryAt_eq (within : tree.Within other) {absolute : Bool}
    (found : tree.directoryAt absolute names = .ok base) :
    other.directoryAt absolute names = .ok base := by
  rw [directoryAt_eq_ok_iff] at found ⊢
  rw [← within.here]
  exact within.resolve_eq found

/-- The place that a path names, in a directory that may be searched. What stands there is not
followed. -/
inductive Names (tree : FileTree) (path : String) : Location → Prop where
  | place {base : Location} {name : String}
      (reached : tree.directoryAt (Path.isAbsolute path) (Path.names path).dropLast = .ok base)
      (last : (Path.names path).getLast? = some name) (notHere : name ≠ ".")
      (notAbove : name ≠ "..") (searchable : tree.denies (.search base) = none) :
      Names tree path (base ++ [name])

theorem Within.names_place (within : tree.Within other) (named : tree.Names path location) :
    other.Names path location := by
  obtain ⟨reached, last, notHere, notAbove, searchable⟩ := named
  exact .place (within.directoryAt_eq reached) last notHere notAbove (within.denies ▸ searchable)

theorem Names.ne_nil (named : tree.Names path location) : location ≠ [] := by
  obtain ⟨⟩ := named
  simp

theorem Names.unique {other : Location} (named : tree.Names path location)
    (again : tree.Names path other) : location = other := by
  obtain ⟨reached, last, _, _, _⟩ := named
  obtain ⟨reachedToo, lastToo, _, _, _⟩ := again
  rw [Except.ok.inj (reached.symm.trans reachedToo), Option.some.inj (last.symm.trans lastToo)]

theorem names_bare (tree : FileTree) (isName : Path.IsName name)
    (searchable : tree.denies (.search tree.here) = none) :
    tree.Names name (tree.here ++ [name]) := by
  have reached : tree.directoryAt (Path.isAbsolute name) (Path.names name).dropLast =
      .ok tree.here := by
    rw [isName.isAbsolute_eq, isName.names_eq, directoryAt_eq_ok_iff]
    exact resolve_nil ..
  exact .place reached (by rw [isName.names_eq, List.getLast?_singleton]) isName.notHere
    isName.notAbove searchable

theorem split_eq_ok_iff {special : IoError} :
    tree.split path special = .ok (base, name) ↔
      tree.directoryAt (Path.isAbsolute path) (Path.names path).dropLast = .ok base ∧
        (Path.names path).getLast? = some name ∧ name ≠ "." ∧ name ≠ ".." ∧
          tree.denies (.search base) = none := by
  rw [split]
  cases last : (Path.names path).getLast? with
  | none => simp
  | some known =>
      dsimp only
      rw [Except.bind_eq_ok_iff]
      constructor
      · rintro ⟨directory, reached, chosen⟩
        split at chosen
        · cases chosen
        · rename_i proper
          split at chosen
          · cases chosen
          · rename_i searchable
            obtain ⟨rfl, rfl⟩ := Prod.mk.inj (Except.ok.inj chosen)
            rw [Bool.or_eq_true, not_or, beq_iff_eq, beq_iff_eq] at proper
            exact ⟨reached, rfl, proper.1, proper.2, searchable⟩
      · rintro ⟨reached, same, notHere, notAbove, searchable⟩
        obtain rfl := Option.some.inj same
        refine ⟨base, reached, ?_⟩
        rw [if_neg (by simp [notHere, notAbove]), searchable]
        rfl

theorem names_iff_split (special : IoError) :
    tree.Names path location ↔
      ∃ base name, tree.split path special = .ok (base, name) ∧ base ++ [name] = location := by
  simp only [split_eq_ok_iff]
  constructor
  · rintro ⟨reached, last, notHere, notAbove, searchable⟩
    exact ⟨_, _, ⟨reached, last, notHere, notAbove, searchable⟩, rfl⟩
  · rintro ⟨base, name, ⟨reached, last, notHere, notAbove, searchable⟩, rfl⟩
    exact .place reached last notHere notAbove searchable

theorem renameTarget_eq_ok_iff :
    tree.renameTarget path = .ok location ↔ tree.Names path location ∧
      Path.endsWithSlash path = false ∧ tree.at? location ≠ some .directory := by
  rw [renameTarget, Except.bind_eq_ok_iff, names_iff_split .busy]
  constructor
  · rintro ⟨⟨base, name⟩, split, chosen⟩
    dsimp only at chosen
    split at chosen
    · cases chosen
    · rename_i closed
      split at chosen
      · cases chosen
      · rename_i noDirectory
        obtain rfl := Except.ok.inj chosen
        exact ⟨⟨base, name, split, rfl⟩, by simpa using closed, noDirectory⟩
  · rintro ⟨⟨base, name, split, rfl⟩, closed, noDirectory⟩
    refine ⟨(base, name), split, ?_⟩
    dsimp only
    rw [closed, if_neg Bool.false_ne_true]
    split
    · rename_i directory
      exact absurd directory noDirectory
    · rfl

theorem Names.locate_eq (named : tree.Names path location) {content : ByteArray}
    (closed : Path.endsWithSlash path = false)
    (held : tree.at? location = some (.file content)) (followLast : Bool) :
    tree.locate followLast path = .ok (location, .file content) := by
  obtain ⟨reached, last, notHere, notAbove, searchable⟩ := named
  rename_i base name
  have whole : Path.names path = (Path.names path).dropLast ++ [name] :=
    (List.dropLast_append_getLast? name last).symm
  have written : path ≠ "" := by
    rintro rfl
    rw [Path.names_empty] at last
    cases last
  obtain ⟨left, onward⟩ := resolve_append (directoryAt_eq_ok_iff.mp reached)
  have further := onward followLast [name] (List.cons_ne_nil name [])
  rw [← whole] at further
  rw [locate_eq written, wantedNames, closed, if_neg Bool.false_ne_true, List.append_nil, further,
    resolve_file notHere notAbove (look_eq_ok_iff.mpr ⟨searchable, held⟩)]
  rfl

end Compliance.FileTree
