import Compliance.Proofs.Files.Place

/-!
Writing through a temporary file. The place that the path names holds the whole content and nothing
else is different, or nothing is different at all.
-/

namespace Compliance.FileTree

variable {tree : FileTree} {refuses : Refuses} {path : String} {content : ByteArray}
  {target : Location}

section Fresh

theorem length_lt_freshName (tree : FileTree) {entry : Location × Entry}
    (member : entry ∈ tree.entries) {name : String} (listed : name ∈ entry.1) :
    name.length < tree.freshName.length := by
  have longest (names : List String) (known : Nat) :=
    foldl_covers (fun (name : String) bound => name.length ≤ bound)
      (fun _ _ => le_max_left ..) (fun _ _ => le_max_right ..)
      (fun _ _ _ more held => held.trans more) names known
  have covered := foldl_covers
    (fun (entry : Location × Entry) known => ∀ name ∈ entry.1, name.length ≤ known)
    (fun known entry => (longest entry.1 known).1) (fun known entry => (longest entry.1 known).2)
    (fun _ _ _ more held name listed => (held name listed).trans more) tree.entries 0
  have bounded := covered.2 entry member name listed
  rw [freshName, String.length_ofList, List.length_replicate]
  omega

theorem ne_fresh (tree : FileTree) (base : Location) :
    ∀ entry ∈ tree.entries, entry.1 ≠ base ++ [tree.freshName] := by
  intro entry member same
  have shorter : tree.freshName.length < tree.freshName.length :=
    tree.length_lt_freshName member (by simp [same])
  omega

theorem at?_fresh (tree : FileTree) (base : Location) :
    tree.at? (base ++ [tree.freshName]) = none := by
  rw [at?_append_name, List.lookup_eq_none_iff]
  intro entry member
  simpa using (tree.ne_fresh base entry member).symm

theorem erase_fresh (tree : FileTree) (base : Location) (entry : Entry) :
    (tree.put (base ++ [tree.freshName]) entry).erase (base ++ [tree.freshName]) = tree := by
  rw [erase_put, tree.erase_eq_self (tree.ne_fresh base)]

end Fresh

section Target

theorem renameTarget_fresh_iff (base : Location) :
    (tree.put (base ++ [tree.freshName]) (.file content)).renameTarget path = .ok target ↔
      tree.renameTarget path = .ok target := by
  have absent := tree.at?_fresh base
  have onward : tree.Within (tree.put (base ++ [tree.freshName]) (.file content)) :=
    within_put (by simp [absent]) (by simp [absent])
  have back : (tree.put (base ++ [tree.freshName]) (.file content)).Within tree :=
    within_of_put_file (by simp)
  rw [renameTarget_eq_ok_iff, renameTarget_eq_ok_iff]
  refine and_congr ⟨back.names_place, onward.names_place⟩ (and_congr_right fun _ => ?_)
  exact not_congr ⟨back.directory target, onward.directory target⟩

/-- The directory in which the temporary file is made is the one of the file that is written. -/
theorem directoryAt_parent {base : Location} {name : String}
    (reached : tree.directoryAt (Path.isAbsolute path) (Path.names path).dropLast = .ok base)
    (last : (Path.names path).getLast? = some name) (notHere : name ≠ ".") :
    ∃ parent, Path.parent? path = some parent ∧
      tree.directoryAt (Path.isAbsolute parent) (Path.names parent) = .ok base := by
  have whole : Path.names path = (Path.names path).dropLast ++ [name] :=
    (List.dropLast_append_getLast? name last).symm
  obtain ⟨parent, found, absolute, names⟩ := Path.exists_parent whole notHere
  refine ⟨parent, found, ?_⟩
  rw [directoryAt_eq_ok_iff] at reached ⊢
  rw [absolute]
  rcases names with names | ⟨rest, above, names⟩
  · rw [names]
    exact resolve_without_points [] reached
  · rw [names]
    rw [above] at reached
    exact resolve_without_points ["."] reached

end Target

section Atomic

theorem createTemporary_cases (tree : FileTree) (refuses : Refuses) (path : String) :
    (∃ error, tree.createTemporary refuses path = .error error) ∨
      refuses .createTemporary = none ∧ ∃ base, tree.createTemporary refuses path =
        .ok (base ++ [tree.freshName],
          tree.put (base ++ [tree.freshName]) (.file ByteArray.empty)) := by
  rw [createTemporary]
  cases refuses .createTemporary with
  | some error => exact .inl ⟨error, rfl⟩
  | none =>
      dsimp only
      cases tree.directoryAt (Path.isAbsolute ((Path.parent? path).getD "."))
          (Path.names ((Path.parent? path).getD ".")) with
      | error error => exact .inl ⟨error, rfl⟩
      | ok base => exact .inr ⟨rfl, base, rfl⟩

theorem rename_cases (tree : FileTree) (refuses : Refuses) (path : String) (content : ByteArray)
    (base : Location) :
    (∃ error, (tree.put (base ++ [tree.freshName]) (.file content)).rename refuses
        (base ++ [tree.freshName]) path content = .error error) ∨
      refuses .rename = none ∧ ∃ target, tree.renameTarget path = .ok target ∧
        (tree.put (base ++ [tree.freshName]) (.file content)).rename refuses
          (base ++ [tree.freshName]) path content = .ok (tree.put target (.file content)) := by
  rw [rename]
  cases refuses .rename with
  | some error => exact .inl ⟨error, rfl⟩
  | none =>
      dsimp only
      cases found : (tree.put (base ++ [tree.freshName]) (.file content)).renameTarget path with
      | error error => exact .inl ⟨error, rfl⟩
      | ok target =>
          refine .inr ⟨rfl, target, (renameTarget_fresh_iff base).mp found, ?_⟩
          rw [erase_fresh]
          rfl

/-- Either the write fails and the tree is the one before, or there is a file more in it. -/
theorem atomicWrite_cases (tree : FileTree) (refuses : Refuses) (path : String)
    (content : ByteArray) :
    (∃ error, tree.atomicWrite refuses path content = (.error error, tree)) ∨
      refuses .createTemporary = none ∧ refuses .writeContent = none ∧ refuses .rename = none ∧
        ∃ target, tree.renameTarget path = .ok target ∧
          tree.atomicWrite refuses path content = (.ok (), tree.put target (.file content)) := by
  rw [atomicWrite]
  rcases tree.createTemporary_cases refuses path with ⟨error, failed⟩ | ⟨made, base, created⟩
  · exact .inl ⟨error, by rw [failed]⟩
  · rw [created]
    dsimp only
    cases written : refuses .writeContent with
    | some error => exact .inl ⟨error, by rw [erase_fresh]⟩
    | none =>
        dsimp only
        rw [put_put]
        rcases tree.rename_cases refuses path content base with
          ⟨error, failed⟩ | ⟨renamed, target, found, moved⟩
        · exact .inl ⟨error, by rw [failed, erase_fresh]⟩
        · exact .inr ⟨made, rfl, renamed, target, found, by rw [moved]⟩

theorem atomicWrite_fst_eq_ok_iff (tree : FileTree) (refuses : Refuses) (path : String)
    (content : ByteArray) :
    (tree.atomicWrite refuses path content).1 = .ok () ↔
      refuses .createTemporary = none ∧ refuses .writeContent = none ∧ refuses .rename = none ∧
        ∃ target, tree.Names path target ∧ Path.endsWithSlash path = false ∧
          tree.at? target ≠ some .directory := by
  simp only [← renameTarget_eq_ok_iff]
  constructor
  · intro done
    rcases tree.atomicWrite_cases refuses path content with
      ⟨error, failed⟩ | ⟨made, written, renamed, target, found, _⟩
    · rw [failed] at done
      cases done
    · exact ⟨made, written, renamed, target, found⟩
  · rintro ⟨made, written, renamed, target, found⟩
    obtain @⟨base, name, reached, last, notHere, _⟩ := (renameTarget_eq_ok_iff.mp found).1
    obtain ⟨parent, above, directory⟩ := directoryAt_parent reached last notHere
    have created : tree.createTemporary refuses path = .ok (base ++ [tree.freshName],
        tree.put (base ++ [tree.freshName]) (.file ByteArray.empty)) := by
      rw [createTemporary, made]
      dsimp only
      rw [above, Option.getD_some, directory]
      rfl
    rw [atomicWrite, created]
    dsimp only
    rw [written]
    dsimp only
    rw [put_put, rename, renamed]
    dsimp only
    rw [(renameTarget_fresh_iff base).mpr found]
    rfl

/-- At the place that the path names stands a file with the content, and nothing else is different.
The path leads there, unless it did so only through a link that stood there. -/
structure Replaces (tree written : FileTree) (path : String) (content : ByteArray)
    (target : Location) : Prop where
  named : tree.Names path target
  noDirectory : tree.at? target ≠ some .directory
  whole : written.at? target = some (.file content)
  others : ∀ location, location ≠ target → written.at? location = tree.at? location
  here : written.here = tree.here
  denies : written.denies = tree.denies
  leads : (∀ link, tree.at? target = some (.link link) → (tree.erase target).Names path target) →
    ∀ followLast, written.locate followLast path = .ok (target, .file content)

theorem replaces_put (named : tree.Names path target) (closed : Path.endsWithSlash path = false)
    (noDirectory : tree.at? target ≠ some .directory) :
    tree.Replaces (tree.put target (.file content)) path content target where
  named := named
  noDirectory := noDirectory
  whole := tree.at?_put named.ne_nil _
  others := fun location apart => tree.at?_put_of_ne apart _
  here := rfl
  denies := rfl
  leads := by
    intro unneeded
    have without : (tree.erase target).Names path target := by
      by_cases linked : ∃ link, tree.at? target = some (.link link)
      · obtain ⟨link, held⟩ := linked
        exact unneeded link held
      · exact (within_erase noDirectory (not_exists.mp linked)).names_place named
    have absent := tree.at?_erase named.ne_nil
    have kept : (tree.erase target).Within ((tree.erase target).put target (.file content)) :=
      within_put (by simp [absent]) (by simp [absent])
    have again := kept.names_place without
    rw [put_erase] at again
    exact again.locate_eq closed (tree.at?_put named.ne_nil _)

/-- What a write comes to. -/
inductive Atomic (tree : FileTree) (path : String) (content : ByteArray) :
    Except IoError Unit × FileTree → Prop where
  | done {written : FileTree} {target : Location}
      (replaces : tree.Replaces written path content target) :
      Atomic tree path content (.ok (), written)
  | failed (error : IoError) : Atomic tree path content (.error error, tree)

theorem atomic_atomicWrite (tree : FileTree) (refuses : Refuses) (path : String)
    (content : ByteArray) : Atomic tree path content (tree.atomicWrite refuses path content) := by
  rcases tree.atomicWrite_cases refuses path content with
    ⟨error, failed⟩ | ⟨_, _, _, target, found, written⟩
  · rw [failed]
    exact .failed error
  · obtain ⟨named, closed, noDirectory⟩ := renameTarget_eq_ok_iff.mp found
    rw [written]
    exact .done (replaces_put named closed noDirectory)

end Atomic

end Compliance.FileTree
