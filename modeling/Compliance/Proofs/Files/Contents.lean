import Mathlib.Data.List.Lex
import Mathlib.Data.List.Sort
import Mathlib.Data.String.Basic
import Compliance.Proofs.Files.Resolution
import Compliance.Proofs.Keyed

/-!
What a tree holds. Names in a directory come in ascending order, each once, and of two trees with
the same things at the same locations every path leads to the same.
-/

namespace Compliance.FileTree

/-- A tree as it is made by putting one thing after another where a directory is. -/
structure Proper (tree : FileTree) : Prop where
  below : ∀ entry ∈ tree.entries, entry.1 ≠ []
  named : ∀ entry ∈ tree.entries, ∀ name ∈ entry.1, Path.IsName name
  distinct : (tree.entries.map Prod.fst).Nodup
  home : tree.Grounded tree.here

theorem mem_namesIn_iff (tree : FileTree) (location : Location) (name : String) :
    name ∈ tree.namesIn location ↔ ∃ entry, tree.at? (location ++ [name]) = some entry := by
  rw [namesIn, List.mem_mergeSort, List.mem_filterMap, at?_append_name]
  constructor
  · rintro ⟨⟨known, entry⟩, member, chosen⟩
    split at chosen
    · rename_i inside
      obtain rfl : known = location ++ [name] := by
        rw [← beq_iff_eq.mp inside, List.dropLast_append_getLast? name chosen]
      refine Option.ne_none_iff_exists'.mp fun absent => ?_
      simpa using List.lookup_eq_none_iff.mp absent _ member
    · cases chosen
  · rintro ⟨entry, found⟩
    exact ⟨_, Keyed.mem_of_lookup found, by simp⟩

variable {tree other : FileTree}

theorem Proper.put (proper : tree.Proper) {location : Location} {entry : Entry}
    (below : location ≠ []) (named : ∀ name ∈ location, Path.IsName name)
    (steady : tree.at? location = some .directory → entry = .directory) :
    (tree.put location entry).Proper where
  below := by
    intro other member
    rcases List.mem_cons.mp member with rfl | kept
    · exact below
    · exact proper.below other (List.mem_of_mem_filter kept)
  named := by
    intro other member
    rcases List.mem_cons.mp member with rfl | kept
    · exact named
    · exact proper.named other (List.mem_of_mem_filter kept)
  distinct := by
    refine List.nodup_cons.mpr ⟨fun again => ?_, ?_⟩
    · obtain ⟨other, kept, same⟩ := List.mem_map.mp again
      have apart := (List.mem_filter.mp kept).2
      simp [same] at apart
    · exact proper.distinct.sublist (List.filter_sublist.map Prod.fst)
  home := by
    intro base before
    have held := proper.home base before
    by_cases same : base = location
    · subst same
      rw [tree.at?_put below, steady held]
    · rwa [tree.at?_put_of_ne same]

theorem list_eq_ok_iff {location : Location} {names : List String} :
    tree.list location = .ok names ↔
      tree.denies (.openAt location) = none ∧ tree.namesIn location = names := by
  rw [list]
  cases tree.denies (.openAt location) <;> simp

section Listed

variable {location : Location} {names : List String} {name : String}

theorem Proper.isName_of_mem_list (proper : tree.Proper) (listed : tree.list location = .ok names)
    (member : name ∈ names) : Path.IsName name := by
  obtain ⟨_, rfl⟩ := list_eq_ok_iff.mp listed
  obtain ⟨entry, found⟩ := (tree.mem_namesIn_iff location name).mp member
  rw [at?_append_name] at found
  exact proper.named _ (Keyed.mem_of_lookup found) name (by simp)

end Listed

/-- The same things at the same locations, the same working directory, and the same refusals. -/
structure Same (tree other : FileTree) : Prop where
  here : tree.here = other.here
  denies : tree.denies = other.denies
  held : ∀ location, tree.at? location = other.at? location

theorem Proper.same_of_perm (proper : tree.Proper) (perm : tree.entries.Perm other.entries)
    (here : tree.here = other.here) (denies : tree.denies = other.denies) : tree.Same other := by
  have distinct := (perm.map Prod.fst).nodup_iff.mp proper.distinct
  refine ⟨here, denies, fun location => ?_⟩
  rw [at?, at?]
  split
  · rfl
  · apply Option.ext
    intro entry
    rw [Keyed.lookup_eq_some_iff_of_nodup proper.distinct, Keyed.lookup_eq_some_iff_of_nodup distinct,
      perm.mem_iff]

theorem Proper.of_perm (proper : tree.Proper) (perm : tree.entries.Perm other.entries)
    (here : tree.here = other.here) (denies : tree.denies = other.denies) : other.Proper where
  below := fun entry member => proper.below entry (perm.mem_iff.mpr member)
  named := fun entry member => proper.named entry (perm.mem_iff.mpr member)
  distinct := (perm.map Prod.fst).nodup_iff.mp proper.distinct
  home := by
    intro base before
    rw [← (proper.same_of_perm perm here denies).held]
    exact proper.home base (here ▸ before)

namespace Same

theorem look_eq (same : tree.Same other) (base : Location) (name : String) :
    tree.look base name = other.look base name := by
  rw [look, look, same.denies, same.held]

theorem resolve_eq (same : tree.Same other) (followLast : Bool) (links : Nat) (base : Location)
    (names : List String) :
    tree.resolve followLast links base names = other.resolve followLast links base names := by
  induction links, base, names using tree.resolve_induction with
  | done links base => rw [resolve_nil, resolve_nil]
  | point links base rest ih => rwa [resolve_point, resolve_point]
  | above links base rest ih => rwa [resolve_above, resolve_above]
  | lost links base name rest error notHere notAbove held =>
      rw [resolve_lost notHere notAbove held, resolve_lost notHere notAbove (same.look_eq _ _ ▸ held)]
  | down links base name rest notHere notAbove held ih =>
      rwa [resolve_down notHere notAbove held, resolve_down notHere notAbove (same.look_eq _ _ ▸ held)]
  | file links base name rest content notHere notAbove held =>
      rw [resolve_file notHere notAbove held, resolve_file notHere notAbove (same.look_eq _ _ ▸ held)]
  | exhausted base name rest target notHere notAbove held =>
      rw [resolve_exhausted notHere notAbove held,
        resolve_exhausted notHere notAbove (same.look_eq _ _ ▸ held)]
  | link links base name rest target notHere notAbove held ih =>
      rw [resolve_link notHere notAbove held, resolve_link notHere notAbove (same.look_eq _ _ ▸ held),
        ih]

theorem locate_eq (same : tree.Same other) (followLast : Bool) (path : String) :
    tree.locate followLast path = other.locate followLast path := by
  rw [locate, locate, locateNames, locateNames, same.here, same.resolve_eq]

end Same

end Compliance.FileTree
