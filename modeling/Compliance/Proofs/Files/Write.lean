import Mathlib.Logic.Relation
import Compliance.Proofs.Files.Contents
import Compliance.Proofs.Files.Replacement

/-!
Writing an export. Directories above it that were missing may have been made, also on failure;
beyond that an export is one file that is replaced, or nothing.
-/

namespace Compliance.FileTree

variable {tree : FileTree} {refuses : Refuses} {path : String} {content : ByteArray}
  {location : Location}

section Directories

/-- Directories that were missing have been made, each at a place that one of the paths names. -/
structure Prepared (tree ready : FileTree) (paths : String → Prop) : Prop where
  here : ready.here = tree.here
  denies : ready.denies = tree.denies
  held : ∀ location, ready.at? location = tree.at? location ∨
    tree.at? location = none ∧ ready.at? location = some .directory ∧
      ∃ path, paths path ∧ ready.Names path location

variable {ready further : FileTree} {paths : String → Prop}

theorem prepared_refl (tree : FileTree) (paths : String → Prop) : tree.Prepared tree paths :=
  ⟨rfl, rfl, fun _ => .inl rfl⟩

theorem Prepared.within (prepared : tree.Prepared ready paths) : tree.Within ready := by
  have kept {entry : Entry} {location : Location} (held : tree.at? location = some entry) :
      ready.at? location = some entry := by
    rcases prepared.held location with same | ⟨missing, _⟩
    · rw [same, held]
    · cases missing.symm.trans held
  exact ⟨prepared.here.symm, prepared.denies.symm, fun _ => kept, fun _ _ => kept⟩

theorem Prepared.mono (prepared : tree.Prepared ready paths) {wider : String → Prop}
    (covers : ∀ path, paths path → wider path) : tree.Prepared ready wider where
  here := prepared.here
  denies := prepared.denies
  held := by
    intro location
    rcases prepared.held location with same | ⟨missing, made, above, listed, named⟩
    · exact .inl same
    · exact .inr ⟨missing, made, above, covers above listed, named⟩

theorem Prepared.trans (prepared : tree.Prepared ready paths)
    (onward : ready.Prepared further paths) : tree.Prepared further paths where
  here := onward.here.trans prepared.here
  denies := onward.denies.trans prepared.denies
  held := by
    intro location
    rcases onward.held location with same | ⟨missing, made, above, listed, named⟩
    · rcases prepared.held location with earlier | ⟨missing, made, above, listed, named⟩
      · exact .inl (same.trans earlier)
      · exact .inr ⟨missing, same.trans made, above, listed, onward.within.names_place named⟩
    · rcases prepared.held location with earlier | ⟨_, there, _⟩
      · exact .inr ⟨earlier.symm.trans missing, made, above, listed, named⟩
      · cases missing.symm.trans there

theorem makeDirectory_eq_ok_iff {made : FileTree} :
    tree.makeDirectory refuses path = .ok made ↔ refuses (.makeDirectory path) = none ∧
      ∃ location, tree.Names path location ∧ tree.at? location = none ∧
        tree.put location .directory = made := by
  rw [makeDirectory]
  cases refuses (.makeDirectory path) with
  | some error => simp
  | none =>
      dsimp only
      rw [Except.bind_eq_ok_iff]
      simp only [names_iff_split .alreadyExists, true_and]
      constructor
      · rintro ⟨⟨base, name⟩, split, chosen⟩
        dsimp only at chosen
        split at chosen
        · cases chosen
        · rename_i missing
          exact ⟨_, ⟨base, name, split, rfl⟩, missing, Except.ok.inj chosen⟩
      · rintro ⟨_, ⟨base, name, split, rfl⟩, missing, rfl⟩
        refine ⟨(base, name), split, ?_⟩
        dsimp only
        rw [missing]
        rfl

theorem prepared_of_makeDirectory {made : FileTree}
    (done : tree.makeDirectory refuses path = .ok made) : tree.Prepared made (· = path) := by
  obtain ⟨_, place, named, missing, rfl⟩ := makeDirectory_eq_ok_iff.mp done
  have kept : tree.Within (tree.put place .directory) :=
    within_put (by simp [missing]) (by simp [missing])
  refine ⟨rfl, rfl, fun location => ?_⟩
  by_cases same : location = place
  · subst same
    exact .inr ⟨missing, tree.at?_put named.ne_nil _, path, rfl, kept.names_place named⟩
  · exact .inl (tree.at?_put_of_ne same _)

theorem makeDirectories_empty (tree : FileTree) (fuel : Nat) (refuses : Refuses) :
    tree.makeDirectories fuel "" refuses = (.ok (), tree) := by
  cases fuel with
  | zero => rw [makeDirectories]
  | succ fuel => rw [makeDirectories, if_pos (by decide)]

/-- A path and those of the directories above it. -/
def Upward (path above : String) : Prop :=
  Relation.ReflTransGen (fun path parent => Path.parent? path = some parent) path above

theorem makeDirectories_keeps (keeps : FileTree → Prop) (start : keeps tree) (fuel : Nat)
    (path : String) (step : ∀ known made above, Upward path above → keeps known →
      known.makeDirectory refuses above = .ok made → keeps made) :
    keeps (tree.makeDirectories fuel path refuses).2 := by
  induction fuel generalizing path with
  | zero =>
      rw [makeDirectories]
      exact start
  | succ fuel ih =>
      have above : keeps (tree.makeDirectories fuel ((Path.parent? path).getD "") refuses).2 := by
        cases onward : Path.parent? path with
        | none =>
            rw [Option.getD_none, makeDirectories_empty]
            exact start
        | some parent =>
            exact ih parent fun known made above upward =>
              step known made above (Relation.ReflTransGen.head onward upward)
      rw [makeDirectories]
      split
      · exact start
      · split
        · rename_i made
          exact step _ _ path .refl start made
        · split
          · exact start
          · split
            · rename_i failed
              rwa [failed] at above
            · rename_i ready done
              rw [done] at above
              split
              · rename_i made
                exact step _ _ path .refl above made
              · exact above

theorem prepared_makeDirectories (tree : FileTree) (fuel : Nat) (path : String)
    (refuses : Refuses) :
    tree.Prepared (tree.makeDirectories fuel path refuses).2 (Upward path) := by
  apply makeDirectories_keeps (tree.Prepared · (Upward path)) (tree.prepared_refl _)
  intro known made above upward prepared done
  exact prepared.trans ((prepared_of_makeDirectory done).mono fun _ same => same ▸ upward)

def Ancestor (path above : String) : Prop :=
  ∃ parent, Path.parent? path = some parent ∧ Upward parent above

theorem prepared_makeParents (tree : FileTree) (refuses : Refuses) (path : String) :
    tree.Prepared (tree.makeParents path refuses).2 (Ancestor path) := by
  rw [makeParents]
  cases step : Path.parent? path with
  | none => exact tree.prepared_refl _
  | some parent =>
      exact (tree.prepared_makeDirectories _ parent refuses).mono fun _ upward =>
        ⟨parent, step, upward⟩

theorem atomic_writeExport (tree : FileTree) (refuses : Refuses) (path : String)
    (content : ByteArray) : ∃ ready, tree.Prepared ready (Ancestor path) ∧
      ready.Atomic path content (tree.writeExport refuses path content) := by
  refine ⟨_, tree.prepared_makeParents refuses path, ?_⟩
  rw [writeExport]
  split
  · rename_i error partly failed
    rw [failed]
    exact .failed error
  · rename_i ready made
    rw [made]
    exact ready.atomic_atomicWrite refuses path content

section There

variable {base : Location} (written : path ≠ "")
  (there : tree.directoryAt (Path.isAbsolute path) (Path.names path) = .ok base)
include written there

theorem makeDirectory_of_there (willing : refuses (.makeDirectory path) = none) :
    tree.makeDirectory refuses path = .error .alreadyExists := by
  rw [makeDirectory, willing]
  dsimp only
  cases last : (Path.names path).getLast? with
  | none =>
      rw [split, last, String.isEmpty_eq_false_iff.mpr written]
      rfl
  | some name =>
      have whole : Path.names path = (Path.names path).dropLast ++ [name] :=
        (List.dropLast_append_getLast? name last).symm
      rw [directoryAt_eq_ok_iff, whole] at there
      obtain ⟨inner, above⟩ := exists_directory_of_resolve (List.cons_ne_nil name []) there
      have reached := directoryAt_eq_ok_iff.mpr above
      by_cases special : name = "." ∨ name = ".."
      · rw [split, last]
        dsimp only
        rw [reached]
        dsimp only [bind, Except.bind]
        rw [if_pos (by simpa using special)]
      · rw [not_or] at special
        obtain ⟨left, onward⟩ := resolve_append above
        rw [onward true [name] (List.cons_ne_nil name [])] at there
        cases held : tree.look inner name with
        | error error =>
            rw [resolve_lost special.1 special.2 held] at there
            cases there
        | ok entry =>
            obtain ⟨searchable, stands⟩ := look_eq_ok_iff.mp held
            have found : tree.split path .alreadyExists = .ok (inner, name) :=
              split_eq_ok_iff.mpr ⟨reached, last, special.1, special.2, searchable⟩
            rw [found]
            dsimp only [bind, Except.bind]
            rw [stands]

theorem isDirectory?_of_there : tree.isDirectory? path = true := by
  have located : tree.locate true path = .ok (base, .directory) := by
    rw [directoryAt_eq_ok_iff] at there
    rw [locate_eq written, wantedNames]
    cases Path.endsWithSlash path with
    | false => rwa [if_neg Bool.false_ne_true, List.append_nil]
    | true => exact resolve_point_last_iff.mpr ⟨there, rfl⟩
  rw [isDirectory?, located]

theorem makeDirectories_of_there (willing : refuses (.makeDirectory path) = none) (fuel : Nat) :
    tree.makeDirectories (fuel + 1) path refuses = (.ok (), tree) := by
  rw [makeDirectories, String.isEmpty_eq_false_iff.mpr written, if_neg Bool.false_ne_true,
    makeDirectory_of_there written there willing]
  simp [isDirectory?_of_there written there]

end There

theorem writeExport_eq_atomicWrite (willing : ∀ above, refuses (.makeDirectory above) = none)
    (done : (tree.atomicWrite refuses path content).1 = .ok ()) :
    tree.writeExport refuses path content = tree.atomicWrite refuses path content := by
  obtain ⟨_, _, _, target, named, _⟩ := (tree.atomicWrite_fst_eq_ok_iff ..).mp done
  obtain ⟨reached, last, notHere, _⟩ := named
  obtain ⟨parent, above, there⟩ := directoryAt_parent reached last notHere
  have made : tree.makeParents path refuses = (.ok (), tree) := by
    rw [makeParents, above]
    by_cases written : parent = ""
    · rw [written]
      exact makeDirectories_empty ..
    · exact makeDirectories_of_there written there (willing parent) _
  rw [writeExport, made]

end Directories

section Proper

theorem Proper.isName_of_names (proper : tree.Proper) (named : tree.Names path location) :
    ∀ name ∈ location, Path.IsName name := by
  obtain @⟨base, last, reached, ends, notHere, notAbove⟩ := named
  have grounded := (at?_of_resolve (proper.home.start _) (directoryAt_eq_ok_iff.mp reached)).2 rfl
  intro name listed
  rcases List.mem_append.mp listed with inside | here
  · have held := grounded.at?_eq
    have below : base ≠ [] := List.ne_nil_of_mem inside
    rw [at?, if_neg (by simpa using below)] at held
    exact proper.named _ (Keyed.mem_of_lookup held) name inside
  · obtain rfl := List.mem_singleton.mp here
    obtain ⟨written, whole⟩ := Path.mem_names (List.mem_of_getLast? ends)
    exact ⟨written, whole, notHere, notAbove⟩

theorem Proper.makeDirectory (proper : tree.Proper) {made : FileTree}
    (done : tree.makeDirectory refuses path = .ok made) : made.Proper := by
  obtain ⟨_, place, named, _, rfl⟩ := makeDirectory_eq_ok_iff.mp done
  exact proper.put named.ne_nil (proper.isName_of_names named) fun _ => rfl

theorem Proper.atomicWrite (proper : tree.Proper) (refuses : Refuses) (path : String)
    (content : ByteArray) : (tree.atomicWrite refuses path content).2.Proper := by
  rcases tree.atomicWrite_cases refuses path content with
    ⟨error, failed⟩ | ⟨_, _, _, target, found, written⟩
  · rw [failed]
    exact proper
  · obtain ⟨named, _, noDirectory⟩ := renameTarget_eq_ok_iff.mp found
    rw [written]
    exact proper.put named.ne_nil (proper.isName_of_names named)
      fun directory => absurd directory noDirectory

theorem Proper.writeExport (proper : tree.Proper) (refuses : Refuses) (path : String)
    (content : ByteArray) : (tree.writeExport refuses path content).2.Proper := by
  have ready : (tree.makeParents path refuses).2.Proper := by
    rw [makeParents]
    cases Path.parent? path with
    | none => exact proper
    | some parent =>
        exact makeDirectories_keeps Proper proper _ parent fun _ _ _ _ known done =>
          known.makeDirectory done
  rw [FileTree.writeExport]
  split
  · rename_i failed
    rwa [failed] at ready
  · rename_i made
    rw [made] at ready
    exact ready.atomicWrite refuses path content

end Proper

theorem at?_of_writeExport {written : FileTree}
    (done : tree.writeExport refuses path content = (.ok (), written)) :
    ∃ location, location.getLast? = (Path.names path).getLast? ∧
      written.at? location = some (.file content) := by
  obtain ⟨ready, _, outcome⟩ := tree.atomic_writeExport refuses path content
  rw [done] at outcome
  obtain ⟨replaces⟩ | _ := outcome
  obtain @⟨base, name, _, last, _, _⟩ := replaces.named
  exact ⟨base ++ [name], by rw [last, List.getLast?_concat], replaces.whole⟩

/-- Whatever is refused on the way, a write is done or nothing has changed, and an export differs
from it in nothing but the directories above the path that were missing. -/
theorem writes_atomic (tree : FileTree) (refuses : Refuses) (path : String)
    (content : ByteArray) :
    tree.Atomic path content (tree.atomicWrite refuses path content) ∧
    (∃ ready, tree.Prepared ready (Ancestor path) ∧
      ready.Atomic path content (tree.writeExport refuses path content)) ∧
    ((tree.atomicWrite refuses path content).1 = .ok () ↔
      (∀ step ∈ [WriteStep.createTemporary, .writeContent, .rename], refuses step = none) ∧
        ∃ target, tree.Names path target ∧ Path.endsWithSlash path = false ∧
          tree.at? target ≠ some .directory) ∧
    ((∀ above, refuses (.makeDirectory above) = none) →
      (tree.atomicWrite refuses path content).1 = .ok () →
        tree.writeExport refuses path content = tree.atomicWrite refuses path content) := by
  refine ⟨tree.atomic_atomicWrite refuses path content, tree.atomic_writeExport refuses path content,
    ?_, writeExport_eq_atomicWrite⟩
  rw [atomicWrite_fst_eq_ok_iff]
  simp [and_assoc]

def linked : FileTree where
  entries := [(["kept.json"], .file "[]".toUTF8), (["r.json"], .link "kept.json")]

/-- The link is replaced, and what it led to is not. -/
theorem writes_atomic_linked : ∃ written,
    linked.writeExport Refuses.never "r.json" "null".toUTF8 = (.ok (), written) ∧
      written.locate true "r.json" = .ok (["r.json"], .file "null".toUTF8) ∧
        written.at? ["kept.json"] = some (.file "[]".toUTF8) := by
  obtain ⟨atomic, _, succeeds, same⟩ :=
    writes_atomic linked Refuses.never "r.json" "null".toUTF8
  have isName : Path.IsName "r.json" := by decide
  have named : linked.Names "r.json" ["r.json"] := linked.names_bare isName rfl
  have closed : Path.endsWithSlash "r.json" = false := by decide +kernel
  have done := succeeds.mpr ⟨fun _ _ => rfl, ["r.json"], named, closed, nofun⟩
  rw [same (fun _ => rfl) done]
  generalize linked.atomicWrite Refuses.never "r.json" "null".toUTF8 = outcome at atomic done
  obtain ⟨replaces⟩ | _ := atomic
  · rename_i written target
    obtain rfl := replaces.named.unique named
    exact ⟨written, rfl, replaces.leads (fun _ _ => (linked.erase _).names_bare isName rfl) true,
      replaces.others ["kept.json"] (by decide)⟩
  · cases done

end Compliance.FileTree
