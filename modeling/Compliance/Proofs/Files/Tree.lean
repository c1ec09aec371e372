import Compliance.Files.Tree
import Compliance.Proofs.Text.Splitting

/-!
Where paths lead, and what is found there. A bare name is looked for in the working directory, and
a file that holds a text in UTF-8 is read as that text. Putting or erasing one thing leaves all
others where they are.
-/

namespace Compliance

theorem Path.names_eq (path : String) :
    names path = ((path.toList.splitOnP fun c => c == '/').map String.ofList).filter
      fun name => !name.isEmpty :=
  congrArg _ (splitOn_eq path '/')

theorem fromUTF8?_toUTF8 (text : String) : String.fromUTF8? text.toUTF8 = some text := by
  have encoded : text.toUTF8.IsValidUTF8 := text.isValidUTF8
  rw [String.fromUTF8?, dif_pos encoded]
  rfl

theorem foldl_covers {α : Type} (covered : α → Nat → Prop) {step : Nat → α → Nat}
    (grows : ∀ known item, known ≤ step known item)
    (covers : ∀ known item, covered item (step known item))
    (upward : ∀ item low high, low ≤ high → covered item low → covered item high)
    (items : List α) (start : Nat) :
    start ≤ items.foldl step start ∧ ∀ item ∈ items, covered item (items.foldl step start) := by
  induction items generalizing start with
  | nil => simp
  | cons first rest ih =>
      obtain ⟨onward, others⟩ := ih (step start first)
      refine ⟨(grows start first).trans onward, fun item member => ?_⟩
      rcases List.mem_cons.mp member with rfl | later
      · exact upward _ _ _ onward (covers start item)
      · exact others item later

namespace FileTree

theorem at?_put (tree : FileTree) {location : Location} (below : location ≠ []) (entry : Entry) :
    (tree.put location entry).at? location = some entry := by
  have named : location.isEmpty = false := by simpa using below
  rw [at?, named, put]
  exact List.lookup_cons_self

theorem lookup_filter_ne (entries : List (Location × Entry)) {location other : Location}
    (apart : other ≠ location) :
    (entries.filter fun entry => entry.1 != location).lookup other = entries.lookup other := by
  induction entries with
  | nil => rfl
  | cons first rest ih =>
      by_cases erased : first.1 = location
      · have passed : other ≠ first.1 := erased ▸ apart
        rw [List.filter_cons_of_neg (by simp [erased]), ih, List.lookup_cons, beq_false_of_ne passed]
      · rw [List.filter_cons_of_pos (by simp [erased]), List.lookup_cons, List.lookup_cons, ih]

theorem at?_erase_of_ne (tree : FileTree) {location other : Location} (apart : other ≠ location) :
    (tree.erase location).at? other = tree.at? other := by
  rw [at?, at?, erase, lookup_filter_ne _ apart]

theorem at?_erase (tree : FileTree) {location : Location} (below : location ≠ []) :
    (tree.erase location).at? location = none := by
  rw [at?, if_neg (by simpa using below), erase, List.lookup_eq_none_iff]
  intro entry member
  rw [bne_comm]
  exact (List.mem_filter.mp member).2

theorem at?_put_of_ne (tree : FileTree) {location other : Location} (apart : other ≠ location)
    (entry : Entry) : (tree.put location entry).at? other = tree.at? other := by
  rw [← tree.at?_erase_of_ne apart, at?, at?, put, List.lookup_cons, beq_false_of_ne apart]

theorem erase_put (tree : FileTree) (location : Location) (entry : Entry) :
    (tree.put location entry).erase location = tree.erase location := by
  simp [put, erase]

theorem put_erase (tree : FileTree) (location : Location) (entry : Entry) :
    (tree.erase location).put location entry = tree.put location entry := by
  simp [put, erase]

theorem put_put (tree : FileTree) (location : Location) (first second : Entry) :
    (tree.put location first).put location second = tree.put location second := by
  rw [put, erase_put, put, put]

theorem erase_eq_self (tree : FileTree) {location : Location}
    (fresh : ∀ entry ∈ tree.entries, entry.1 ≠ location) : tree.erase location = tree := by
  have kept : tree.entries.filter (fun entry => entry.1 != location) = tree.entries :=
    List.filter_eq_self.mpr fun entry member => by simpa using fresh entry member
  rw [erase, kept]

theorem locate_relative (tree : FileTree) (followLast : Bool) {path : String}
    (named : Path.names path ≠ []) (relative : Path.isAbsolute path = false)
    (closed : Path.endsWithSlash path = false) :
    tree.locate followLast path = tree.locateNames followLast false (Path.names path) := by
  have visible : path.isEmpty = false := by
    by_contra blank
    have empty : path = "" := by simpa using blank
    rw [empty, Path.names_eq] at named
    exact named (by decide)
  rw [locate, wantedNames, visible, relative, closed]
  simp

theorem locate_bare (tree : FileTree) (followLast : Bool) {name : String}
    (bare : Path.names name = [name]) (relative : Path.isAbsolute name = false)
    (closed : Path.endsWithSlash name = false) :
    tree.locate followLast name = tree.locateNames followLast false [name] := by
  have located := tree.locate_relative followLast (by simp [bare]) relative closed
  rwa [bare] at located

theorem readText_of_locate {tree : FileTree} {path text : String} {location : Location}
    (found : tree.locate true path = .ok (location, .file text.toUTF8))
    (readable : tree.denies (.openAt location) = none) : tree.readText path = .ok text := by
  rw [readText, read, found]
  dsimp only
  rw [readable]
  dsimp only
  rw [fromUTF8?_toUTF8]

end FileTree

end Compliance
