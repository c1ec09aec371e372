import Compliance.Proofs.Files.Path

/-!
Following the names of a path. Whether a link at the end is followed matters only if there is one,
and a path that leads to a directory can be gone on from there.
-/

namespace Compliance.FileTree

variable {tree : FileTree} {followLast : Bool} {links : Nat} {base location : Location}
  {name target : String} {rest names : List String}

theorem at?_append_name (tree : FileTree) (base : Location) (name : String) :
    tree.at? (base ++ [name]) = tree.entries.lookup (base ++ [name]) := by
  simp [at?]

theorem look_eq_ok_iff {entry : Entry} : tree.look base name = .ok entry ↔
    tree.denies (.search base) = none ∧ tree.at? (base ++ [name]) = some entry := by
  rw [look]
  cases tree.denies (.search base) with
  | some error => simp
  | none => cases tree.at? (base ++ [name]) <;> simp

section Steps

theorem resolve_nil (tree : FileTree) (followLast : Bool) (links : Nat) (base : Location) :
    tree.resolve followLast links base [] = .ok (base, .directory) := by
  cases links
  all_goals rw [resolve, descend]

theorem resolve_point (tree : FileTree) (followLast : Bool) (links : Nat) (base : Location)
    (rest : List String) :
    tree.resolve followLast links base ("." :: rest) = tree.resolve followLast links base rest := by
  cases links
  all_goals rw [resolve, descend, if_pos (by decide)]

theorem resolve_above (tree : FileTree) (followLast : Bool) (links : Nat) (base : Location)
    (rest : List String) :
    tree.resolve followLast links base (".." :: rest) =
      tree.resolve followLast links base.dropLast rest := by
  cases links
  all_goals rw [resolve, descend, if_neg (by decide), if_pos (by decide)]

variable (notHere : name ≠ ".") (notAbove : name ≠ "..")
include notHere notAbove

theorem resolve_lost {error : IoError} (missing : tree.look base name = .error error) :
    tree.resolve followLast links base (name :: rest) = .error error := by
  cases links
  all_goals
    rw [resolve, descend, if_neg (by simpa using notHere), if_neg (by simpa using notAbove)]
    simp only [missing]

theorem resolve_down (down : tree.look base name = .ok .directory) :
    tree.resolve followLast links base (name :: rest) =
      tree.resolve followLast links (base ++ [name]) rest := by
  cases links
  all_goals
    rw [resolve, descend, if_neg (by simpa using notHere), if_neg (by simpa using notAbove)]
    simp only [down]

theorem resolve_file {content : ByteArray}
    (held : tree.look base name = .ok (.file content)) :
    tree.resolve followLast links base (name :: rest) =
      if rest.isEmpty then .ok (base ++ [name], .file content) else .error .notDirectory := by
  cases links
  all_goals
    rw [resolve, descend, if_neg (by simpa using notHere), if_neg (by simpa using notAbove)]
    simp only [held]

theorem resolve_exhausted (held : tree.look base name = .ok (.link target)) :
    tree.resolve followLast 0 base (name :: rest) =
      if rest.isEmpty && !followLast then .ok (base ++ [name], .link target)
      else .error .tooManyLinks := by
  rw [resolve, descend, if_neg (by simpa using notHere), if_neg (by simpa using notAbove)]
  simp only [held]

theorem resolve_link (held : tree.look base name = .ok (.link target)) :
    tree.resolve followLast (links + 1) base (name :: rest) =
      if rest.isEmpty && !followLast then .ok (base ++ [name], .link target)
      else tree.resolve followLast links (if Path.isAbsolute target then [] else base)
        (wantedNames target ++ rest) := by
  rw [resolve, descend, if_neg (by simpa using notHere), if_neg (by simpa using notAbove)]
  simp only [held]

end Steps

theorem resolve_induction (tree : FileTree) {motive : Nat → Location → List String → Prop}
    (done : ∀ links base, motive links base [])
    (point : ∀ links base rest, motive links base rest → motive links base ("." :: rest))
    (above : ∀ links base rest,
      motive links base.dropLast rest → motive links base (".." :: rest))
    (lost : ∀ links base name rest error, name ≠ "." → name ≠ ".." →
      tree.look base name = .error error → motive links base (name :: rest))
    (down : ∀ links base name rest, name ≠ "." → name ≠ ".." →
      tree.look base name = .ok .directory →
        motive links (base ++ [name]) rest → motive links base (name :: rest))
    (file : ∀ links base name rest content, name ≠ "." → name ≠ ".." →
      tree.look base name = .ok (.file content) → motive links base (name :: rest))
    (exhausted : ∀ base name rest target, name ≠ "." → name ≠ ".." →
      tree.look base name = .ok (.link target) → motive 0 base (name :: rest))
    (link : ∀ links base name rest target, name ≠ "." → name ≠ ".." →
      tree.look base name = .ok (.link target) →
        motive links (if Path.isAbsolute target then [] else base) (wantedNames target ++ rest) →
          motive (links + 1) base (name :: rest))
    (links : Nat) (base : Location) (names : List String) : motive links base names := by
  match names with
  | [] => exact done links base
  | name :: rest =>
      have next (base : Location) : motive links base rest :=
        resolve_induction tree done point above lost down file exhausted link links base rest
      by_cases notHere : name = "."
      · exact notHere ▸ point links base rest (next base)
      by_cases notAbove : name = ".."
      · exact notAbove ▸ above links base rest (next base.dropLast)
      match held : tree.look base name with
      | .error error => exact lost links base name rest error notHere notAbove held
      | .ok .directory => exact down links base name rest notHere notAbove held (next _)
      | .ok (.file content) => exact file links base name rest content notHere notAbove held
      | .ok (.link target) =>
          match links with
          | 0 => exact exhausted base name rest target notHere notAbove held
          | fewer + 1 =>
              exact link fewer base name rest target notHere notAbove held
                (resolve_induction tree done point above lost down file exhausted link fewer _ _)
termination_by (links, names.length)

theorem resolve_true_eq (tree : FileTree) (links : Nat) (base : Location) (names : List String) :
    (∃ location target, tree.resolve false links base names = .ok (location, .link target)) ∨
      tree.resolve true links base names = tree.resolve false links base names := by
  induction links, base, names using tree.resolve_induction with
  | done links base => exact .inr (by rw [resolve_nil, resolve_nil])
  | point links base rest ih => simpa only [resolve_point] using ih
  | above links base rest ih => simpa only [resolve_above] using ih
  | lost links base name rest error notHere notAbove held =>
      exact .inr (by simp only [resolve_lost notHere notAbove held])
  | down links base name rest notHere notAbove held ih =>
      simpa only [resolve_down notHere notAbove held] using ih
  | file links base name rest content notHere notAbove held =>
      exact .inr (by simp only [resolve_file notHere notAbove held])
  | exhausted base name rest target notHere notAbove held =>
      simp only [resolve_exhausted notHere notAbove held]
      cases rest with
      | nil => exact .inl ⟨_, _, rfl⟩
      | cons => exact .inr rfl
  | link links base name rest target notHere notAbove held ih =>
      simp only [resolve_link notHere notAbove held]
      cases rest with
      | nil => exact .inl ⟨_, _, rfl⟩
      | cons => simpa using ih

theorem resolve_append_point (tree : FileTree) (followLast : Bool) (links : Nat) (base : Location)
    (names : List String) {more : List String} (onward : more ≠ []) :
    tree.resolve followLast links base (names ++ "." :: more) =
      tree.resolve followLast links base (names ++ more) := by
  induction links, base, names using tree.resolve_induction with
  | done links base => exact tree.resolve_point followLast links base more
  | point links base rest ih => simpa only [List.cons_append, resolve_point] using ih
  | above links base rest ih => simpa only [List.cons_append, resolve_above] using ih
  | lost links base name rest error notHere notAbove held =>
      simp only [List.cons_append, resolve_lost notHere notAbove held]
  | down links base name rest notHere notAbove held ih =>
      simpa only [List.cons_append, resolve_down notHere notAbove held] using ih
  | file links base name rest content notHere notAbove held =>
      simp [resolve_file notHere notAbove held, onward]
  | exhausted base name rest target notHere notAbove held =>
      simp [resolve_exhausted notHere notAbove held, onward]
  | link links base name rest target notHere notAbove held ih =>
      simpa [resolve_link notHere notAbove held, onward, List.append_assoc] using ih

theorem resolve_append (found : tree.resolve true links base names = .ok (location, .directory)) :
    ∃ left, ∀ followLast more, more ≠ [] →
      tree.resolve followLast links base (names ++ more) =
        tree.resolve followLast left location more := by
  induction links, base, names using tree.resolve_induction with
  | done links base =>
      rw [resolve_nil] at found
      obtain ⟨rfl, _⟩ := Prod.mk.inj (Except.ok.inj found)
      exact ⟨links, fun _ _ _ => rfl⟩
  | point links base rest ih =>
      rw [resolve_point] at found
      simpa only [List.cons_append, resolve_point] using ih found
  | above links base rest ih =>
      rw [resolve_above] at found
      simpa only [List.cons_append, resolve_above] using ih found
  | lost links base name rest error notHere notAbove held =>
      rw [resolve_lost notHere notAbove held] at found
      cases found
  | down links base name rest notHere notAbove held ih =>
      rw [resolve_down notHere notAbove held] at found
      simpa only [List.cons_append, resolve_down notHere notAbove held] using ih found
  | file links base name rest content notHere notAbove held =>
      rw [resolve_file notHere notAbove held] at found
      split at found
      all_goals cases found
  | exhausted base name rest target notHere notAbove held =>
      rw [resolve_exhausted notHere notAbove held] at found
      simp at found
  | link links base name rest target notHere notAbove held ih =>
      rw [resolve_link notHere notAbove held, if_neg (by simp)] at found
      obtain ⟨left, same⟩ := ih found
      refine ⟨left, fun followLast more onward => ?_⟩
      rw [List.cons_append, resolve_link notHere notAbove held, if_neg (by simp [onward]),
        ← List.append_assoc]
      exact same followLast more onward

/-- A location that is a directory, and so is every one on the way to it. -/
def Grounded (tree : FileTree) (location : Location) : Prop :=
  ∀ base, base <+: location → tree.at? base = some .directory

theorem Grounded.at?_eq (grounded : tree.Grounded location) :
    tree.at? location = some .directory :=
  grounded location (List.prefix_refl location)

theorem Grounded.dropLast (grounded : tree.Grounded location) : tree.Grounded location.dropLast :=
  fun base before => grounded base (before.trans (List.dropLast_prefix location))

theorem Grounded.append_name (grounded : tree.Grounded base)
    (held : tree.at? (base ++ [name]) = some .directory) : tree.Grounded (base ++ [name]) := by
  intro other before
  rcases List.prefix_concat_iff.mp before with rfl | earlier
  · exact held
  · exact grounded other earlier

theorem grounded_root (tree : FileTree) : tree.Grounded [] := by
  intro base before
  rw [List.prefix_nil.mp before]
  rfl

theorem Grounded.start (grounded : tree.Grounded base) (absolute : Bool) :
    tree.Grounded (if absolute then [] else base) := by
  cases absolute
  · exact grounded
  · exact tree.grounded_root

/-- What names lead to is what there is at the location. -/
theorem at?_of_resolve {entry : Entry} (grounded : tree.Grounded base)
    (found : tree.resolve followLast links base names = .ok (location, entry)) :
    tree.at? location = some entry ∧ (entry = .directory → tree.Grounded location) := by
  induction links, base, names using tree.resolve_induction with
  | done links base =>
      rw [resolve_nil] at found
      obtain ⟨rfl, rfl⟩ := Prod.mk.inj (Except.ok.inj found)
      exact ⟨grounded.at?_eq, fun _ => grounded⟩
  | point links base rest ih =>
      rw [resolve_point] at found
      exact ih grounded found
  | above links base rest ih =>
      rw [resolve_above] at found
      exact ih grounded.dropLast found
  | lost links base name rest error notHere notAbove held =>
      rw [resolve_lost notHere notAbove held] at found
      cases found
  | down links base name rest notHere notAbove held ih =>
      rw [resolve_down notHere notAbove held] at found
      exact ih (grounded.append_name (look_eq_ok_iff.mp held).2) found
  | file links base name rest content notHere notAbove held =>
      rw [resolve_file notHere notAbove held] at found
      split at found
      · obtain ⟨rfl, rfl⟩ := Prod.mk.inj (Except.ok.inj found)
        exact ⟨(look_eq_ok_iff.mp held).2, nofun⟩
      · cases found
  | exhausted base name rest target notHere notAbove held =>
      rw [resolve_exhausted notHere notAbove held] at found
      split at found
      · obtain ⟨rfl, rfl⟩ := Prod.mk.inj (Except.ok.inj found)
        exact ⟨(look_eq_ok_iff.mp held).2, nofun⟩
      · cases found
  | link links base name rest target notHere notAbove held ih =>
      rw [resolve_link notHere notAbove held] at found
      split at found
      · obtain ⟨rfl, rfl⟩ := Prod.mk.inj (Except.ok.inj found)
        exact ⟨(look_eq_ok_iff.mp held).2, nofun⟩
      · exact ih (grounded.start _) found

section Locate

variable {path : String}

theorem locate_eq (written : path ≠ "") :
    tree.locate followLast path =
      tree.resolve followLast linkLimit (if Path.isAbsolute path then [] else tree.here)
        (wantedNames path) := by
  rw [locate, String.isEmpty_eq_false_iff.mpr written, if_neg Bool.false_ne_true, locateNames]

theorem locate_empty (tree : FileTree) (followLast : Bool) :
    tree.locate followLast "" = .error .notFound := by
  rw [locate, if_pos (by decide)]

theorem ne_empty_of_locate {entry : Entry}
    (found : tree.locate followLast path = .ok (location, entry)) : path ≠ "" := by
  rintro rfl
  rw [locate_empty] at found
  cases found

theorem locate_true_eq (tree : FileTree) (path : String) :
    (∃ location target, tree.locate false path = .ok (location, .link target)) ∨
      tree.locate true path = tree.locate false path := by
  by_cases written : path = ""
  · rw [written, locate_empty, locate_empty]
    exact .inr rfl
  · rw [locate_eq written, locate_eq written]
    exact tree.resolve_true_eq ..

theorem at?_of_locate {entry : Entry} (home : tree.Grounded tree.here)
    (found : tree.locate followLast path = .ok (location, entry)) :
    tree.at? location = some entry ∧ (entry = .directory → tree.Grounded location) := by
  rw [locate_eq (ne_empty_of_locate found)] at found
  exact at?_of_resolve (home.start _) found

theorem locate_join (found : tree.locate true path = .ok (location, .directory))
    (isName : Path.IsName name) :
    ∃ left, ∀ followLast, tree.locate followLast (Path.join path name) =
      tree.resolve followLast left location [name] := by
  have written : path ≠ "" := ne_empty_of_locate found
  rw [locate_eq written] at found
  obtain ⟨left, same⟩ := resolve_append found
  refine ⟨left, fun followLast => ?_⟩
  rw [← same followLast [name] (List.cons_ne_nil name []),
    locate_eq (Path.join_ne_empty written isName), Path.isAbsolute_join written isName]
  unfold wantedNames
  rw [Path.names_join written isName, Path.endsWithSlash_join written isName]
  cases Path.endsWithSlash path with
  | false => simp
  | true =>
      have pointed := tree.resolve_append_point followLast linkLimit
        (if Path.isAbsolute path then [] else tree.here) (Path.names path)
        (List.cons_ne_nil name [])
      simpa using pointed.symm

theorem locate_join_cases {inner : Location}
    (found : tree.locate true path = .ok (location, .directory)) (isName : Path.IsName name)
    (further : tree.locate true (Path.join path name) = .ok (inner, .directory)) :
    (∃ known target, tree.locate false (Path.join path name) = .ok (known, .link target)) ∨
      inner = location ++ [name] := by
  rcases tree.locate_true_eq (Path.join path name) with link | same
  · exact .inl link
  · right
    obtain ⟨left, onward⟩ := locate_join found isName
    rw [same, onward] at further
    match held : tree.look location name with
    | .error error =>
        rw [resolve_lost isName.notHere isName.notAbove held] at further
        cases further
    | .ok .directory =>
        rw [resolve_down isName.notHere isName.notAbove held, resolve_nil] at further
        exact (Prod.mk.inj (Except.ok.inj further)).1.symm
    | .ok (.file content) =>
        rw [resolve_file isName.notHere isName.notAbove held] at further
        cases further
    | .ok (.link target) =>
        cases left with
        | zero =>
            rw [resolve_exhausted isName.notHere isName.notAbove held] at further
            cases further
        | succ left =>
            rw [resolve_link isName.notHere isName.notAbove held] at further
            cases further

end Locate

end Compliance.FileTree
