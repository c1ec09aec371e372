import Mathlib.Data.Finset.Card
import Mathlib.Tactic.Ring
import Compliance.Files.Walk
import Compliance.Proofs.Files.Contents

/-!
What a walk finds: every file below a path, depth first and by name, unless something there cannot
be reached or listed or a link leads back to a directory on the way to it.
-/

namespace Compliance

def Path.below (path : String) (names : List String) : String := names.foldl join path

namespace FileTree

variable {tree : FileTree} {way last : Way} {path name : String} {location : Location}
  {names : List String}

def Lists (tree : FileTree) (location : Location) (name : String) : Prop :=
  ∃ names, tree.list location = .ok names ∧ name ∈ names

/-- What is wrong at a path: it leads nowhere, it is a directory that may not be listed, or it is a
link to a directory on the way. -/
inductive Fault (tree : FileTree) (way : Way) (path : String) : WalkFault → Prop where
  | lost {error : IoError} (unread : tree.locate true path = .error error) :
      Fault tree way path (.io path error)
  | unlisted {error : IoError} {location : Location}
      (directory : tree.locate true path = .ok (location, .directory))
      (refused : tree.list location = .error error) : Fault tree way path (.io path error)
  | loop {ancestor target : String} {known location : Location}
      (link : tree.locate false path = .ok (known, .link target))
      (directory : tree.locate true path = .ok (location, .directory))
      (passed : ancestorAt? way location = some ancestor) :
      Fault tree way path (.loop path ancestor)

section Outcome

/-- Paths in the order of the names that lead to them. -/
def Listing (files : List String → Prop) (path : String) (paths : List String) : Prop :=
  ∃ found : List (List String), found.Pairwise (· < ·) ∧ (∀ names, names ∈ found ↔ files names) ∧
    found.map (Path.below path) = paths

/-- All files, when nothing is wrong, or else something that is. -/
inductive Outcome (faults : WalkFault → Prop) (files : List String → Prop) (path : String) :
    Except WalkFault (List String) → Prop where
  | ok {paths : List String} (sound : ∀ fault, ¬ faults fault)
      (listing : Listing files path paths) : Outcome faults files path (.ok paths)
  | error {fault : WalkFault} (wrong : faults fault) : Outcome faults files path (.error fault)

variable {faults otherFaults : WalkFault → Prop} {files otherFiles : List String → Prop}
  {result : Except WalkFault (List String)}

theorem Listing.unique {paths others : List String} (listing : Listing files path paths)
    (other : Listing files path others) : paths = others := by
  obtain ⟨found, ascending, exact, rfl⟩ := listing
  obtain ⟨again, ascendingToo, exactToo, rfl⟩ := other
  rw [ascending.eq_of_mem_iff ascendingToo fun names => (exact names).trans (exactToo names).symm]

theorem Listing.mem_iff {paths : List String} (listing : Listing files path paths)
    {other : String} : other ∈ paths ↔ ∃ names, files names ∧ Path.below path names = other := by
  obtain ⟨found, _, exact, rfl⟩ := listing
  simp only [List.mem_map, exact]

theorem Outcome.congr (outcome : Outcome faults files path result)
    (sameFaults : ∀ fault, otherFaults fault ↔ faults fault)
    (sameFiles : ∀ names, otherFiles names ↔ files names) :
    Outcome otherFaults otherFiles path result := by
  obtain rfl : otherFaults = faults := funext fun fault => propext (sameFaults fault)
  obtain rfl : otherFiles = files := funext fun names => propext (sameFiles names)
  exact outcome

theorem Listing.cons {files : String → List String → Prop} {others paths more : List String}
    (first : Listing (files name) (Path.join path name) paths)
    (before : ∀ other ∈ others, name < other)
    (later : Listing
      (fun onward => ∃ name ∈ others, ∃ rest, onward = name :: rest ∧ files name rest) path more) :
    Listing (fun onward => ∃ other ∈ name :: others, ∃ rest, onward = other :: rest ∧
      files other rest) path (paths ++ more) := by
  obtain ⟨found, ascending, exact, rfl⟩ := first
  obtain ⟨foundLater, ascendingLater, exactLater, rfl⟩ := later
  refine ⟨found.map (name :: ·) ++ foundLater, ?_, ?_, ?_⟩
  · rw [List.pairwise_append, List.pairwise_map]
    refine ⟨ascending.imp fun less => List.cons_lt_cons_iff.mpr (.inr ⟨rfl, less⟩),
      ascendingLater, ?_⟩
    intro left leftFound right rightFound
    obtain ⟨rest, _, rfl⟩ := List.mem_map.mp leftFound
    obtain ⟨other, member, rest, rfl, _⟩ := (exactLater right).mp rightFound
    exact List.cons_lt_cons_iff.mpr (.inl (before other member))
  · intro onward
    rw [List.mem_append, List.mem_map, exactLater]
    simp only [exact, List.exists_mem_cons_iff]
    exact or_congr_left ⟨fun ⟨rest, held, same⟩ => ⟨rest, same.symm, held⟩,
      fun ⟨rest, same, held⟩ => ⟨rest, held, same.symm⟩⟩
  · rw [List.map_append, List.map_map]
    rfl

theorem Outcome.cons {faults : String → WalkFault → Prop} {files : String → List String → Prop}
    {others : List String} {found more : Except WalkFault (List String)}
    (first : Outcome (faults name) (files name) (Path.join path name) found)
    (before : ∀ other ∈ others, name < other)
    (later : Outcome (fun fault => ∃ name ∈ others, faults name fault)
      (fun onward => ∃ name ∈ others, ∃ rest, onward = name :: rest ∧ files name rest) path more) :
    Outcome (fun fault => ∃ other ∈ name :: others, faults other fault)
      (fun onward => ∃ other ∈ name :: others, ∃ rest, onward = other :: rest ∧ files other rest)
      path (do return (← found) ++ (← more)) := by
  cases first with
  | error wrong => exact .error ⟨name, List.mem_cons_self, wrong⟩
  | ok sound listing =>
      cases later with
      | error wrong =>
          obtain ⟨other, member, wrong⟩ := wrong
          exact .error ⟨other, List.mem_cons_of_mem _ member, wrong⟩
      | ok soundLater listingLater =>
          refine .ok (fun fault => ?_) (listing.cons before listingLater)
          rw [List.exists_mem_cons_iff]
          exact not_or.mpr ⟨sound fault, soundLater fault⟩

end Outcome

section Stages

def Enters (tree : FileTree) (way : Way) (path : String) (location : Location) : Prop :=
  tree.locate true path = .ok (location, .directory) ∧ ∀ fault, ¬ Fault tree way path fault

variable {fuel : Nat}

end Stages

section Room

theorem length_le_depth (tree : FileTree) {entry : Location × Entry}
    (member : entry ∈ tree.entries) : entry.1.length ≤ tree.depth := by
  have covered := foldl_covers (fun (entry : Location × Entry) known => entry.1.length ≤ known)
    (fun _ _ => le_max_left ..) (fun _ _ => le_max_right ..)
    (fun _ _ _ more held => held.trans more) tree.entries 0
  exact covered.2 entry member

def locations (tree : FileTree) : Finset Location := ([] :: tree.entries.map Prod.fst).toFinset

theorem Grounded.mem_locations (grounded : tree.Grounded location) :
    location ∈ tree.locations ∧ location.length ≤ tree.depth := by
  have held := grounded.at?_eq
  rw [at?] at held
  split at held
  · rename_i root
    rw [List.isEmpty_iff.mp root]
    exact ⟨by simp [locations], Nat.zero_le _⟩
  · have member := Keyed.mem_of_lookup held
    refine ⟨?_, tree.length_le_depth member⟩
    rw [locations, List.mem_toFinset]
    exact List.mem_cons_of_mem _ (List.mem_map_of_mem member)

/-- How often a way can still go down before it ends: between two links at most as far as the tree
is deep, and by a link only to a directory that is not on it. -/
def left (tree : FileTree) (way : Way) (location : Location) : Nat :=
  (tree.locations \ (way.map Prod.snd).toFinset).card * (tree.depth + 1) +
    (tree.depth - location.length)

theorem free_cons_le (tree : FileTree) (way : Way) (path : String) (location : Location) :
    (tree.locations \ (((path, location) :: way).map Prod.snd).toFinset).card ≤
      (tree.locations \ (way.map Prod.snd).toFinset).card := by
  rw [List.map_cons, List.toFinset_cons, Finset.sdiff_insert]
  exact Finset.card_erase_le

theorem free_cons_lt (tree : FileTree) {way : Way} (path : String) {location : Location}
    (known : location ∈ tree.locations) (fresh : ancestorAt? way location = none) :
    (tree.locations \ (((path, location) :: way).map Prod.snd).toFinset).card <
      (tree.locations \ (way.map Prod.snd).toFinset).card := by
  rw [List.map_cons, List.toFinset_cons, Finset.sdiff_insert]
  refine Finset.card_erase_lt_of_mem (Finset.mem_sdiff.mpr ⟨known, ?_⟩)
  rw [List.mem_toFinset]
  rintro passed
  obtain ⟨step, member, same⟩ := List.mem_map.mp passed
  rw [ancestorAt?, Option.map_eq_none_iff, List.find?_eq_none] at fresh
  simpa [same] using fresh step member

def Room (tree : FileTree) (fuel : Nat) (way : Way) (path : String) : Prop :=
  0 < fuel ∧ ∀ location, Enters tree way path location →
    tree.left ((path, location) :: way) location + 2 ≤ fuel

variable {fuel : Nat}

theorem Enters.left_lt (proper : tree.Proper) {inner : Location}
    (enters : Enters tree way path location) (listed : Lists tree location name)
    (further : Enters tree ((path, location) :: way) (Path.join path name) inner) :
    tree.left ((Path.join path name, inner) :: (path, location) :: way) inner <
      tree.left ((path, location) :: way) location := by
  have outerDeep := (at?_of_locate proper.home enters.1).2 rfl |>.mem_locations.2
  obtain ⟨known, deep⟩ := ((at?_of_locate proper.home further.1).2 rfl).mem_locations
  obtain ⟨_, shown, member⟩ := listed
  rcases locate_join_cases enters.1 (proper.isName_of_mem_list shown member) further.1 with
    link | rfl
  · obtain ⟨_, _, link⟩ := link
    have fresh : ancestorAt? ((path, location) :: way) inner = none := by
      rw [← Option.not_isSome_iff_eq_none, Option.isSome_iff_exists]
      rintro ⟨ancestor, passed⟩
      exact further.2 _ (.loop link further.1 passed)
    have fewer := free_cons_lt tree (Path.join path name) known fresh
    unfold left
    have scaled := Nat.mul_le_mul_right (tree.depth + 1) fewer
    rw [Nat.succ_mul] at scaled
    omega
  · have notMore := free_cons_le tree ((path, location) :: way) (Path.join path name)
      (location ++ [name])
    have scaled := Nat.mul_le_mul_right (tree.depth + 1) notMore
    rw [List.length_append, List.length_singleton] at deep
    unfold left
    rw [List.length_append, List.length_singleton]
    omega

theorem Room.down (proper : tree.Proper) (room : Room tree (fuel + 1) way path)
    (enters : Enters tree way path location) (listed : Lists tree location name) :
    Room tree fuel ((path, location) :: way) (Path.join path name) := by
  have enough := room.2 location enters
  refine ⟨by omega, fun inner further => ?_⟩
  have fewer := enters.left_lt proper listed further
  omega

end Room

namespace Same

variable {other : FileTree}

end Same

end FileTree

end Compliance
