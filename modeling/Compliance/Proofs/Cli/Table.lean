import Mathlib.Data.List.DropRight
import Mathlib.Data.List.Forall2
import Mathlib.Data.List.GetD
import Mathlib.Data.List.Infix
import Compliance.Cli.Table
import Compliance.Proofs.Files.Tree
import Compliance.Proofs.Text.Lines

/-!
Reading a drawn table. Its first line tells how wide the columns are, other rules part the rows, and
in each line of a row a cell takes up its column. So all cells are got back, but for the blanks at
the end of a line and the empty lines at the end of a cell, which do not show.
-/

namespace Compliance

namespace Text

theorem columns_le_two (c : Char) : columns c ≤ 2 := by
  rw [columns]
  split
  · omega
  · split <;> omega

theorem width_le_append (text rest : List Char) : width text ≤ width (text ++ rest) := by
  induction text with
  | nil => exact Nat.zero_le _
  | cons c text ih =>
      cases text with
      | nil =>
          have few := columns_le_two c
          have alone : width [c] = columns c := by simp [width]
          rw [alone, List.singleton_append, width]
          split <;> omega
      | cons next others =>
          rw [List.cons_append, width, width]
          exact Nat.add_le_add_left ih _

theorem width_append (text : List Char) {rest : List Char}
    (steady : rest.head? ≠ some pictureSelector) :
    width (text ++ rest) = width text + width rest := by
  induction text with
  | nil => simp [width]
  | cons c text ih =>
      have next : ((text ++ rest).head? == some pictureSelector) =
          (text.head? == some pictureSelector) := by
        cases text with
        | nil => simpa using steady
        | cons => rfl
      rw [List.cons_append, width, width, next, ih, Nat.add_assoc]

theorem width_blank_cons (text : List Char) : width (' ' :: text) = 1 + width text := by
  have plain : selectable.contains ' ' = false := by decide
  have one : columns ' ' = 1 := by decide
  rw [width, plain, Bool.and_false, if_neg Bool.false_ne_true, one]

theorem width_blanks (count : Nat) : width (List.replicate count ' ') = count := by
  induction count with
  | zero => rfl
  | succ count ih => rw [List.replicate_succ, width_blank_cons, ih, Nat.add_comm]

/-- The longest beginning of a text that takes no more columns. -/
def fitting (limit : Nat) (text : List Char) : List Char :=
  ((text.inits.filter fun start => width start ≤ limit).getLast?).getD []

theorem getLast?_inits (text : List Char) : text.inits.getLast? = some text := by
  induction text with
  | nil => rfl
  | cons c rest ih =>
      rw [List.inits_cons, List.getLast?_cons, List.getLast?_map, ih]
      rfl

theorem fitting_append (cell rest : List Char) {border : Char} (takes : 0 < columns border)
    (steady : border ≠ pictureSelector) :
    fitting (width cell) (cell ++ border :: rest) = cell := by
  have within : cell.inits.filter (fun start => width start ≤ width cell) = cell.inits := by
    refine List.filter_eq_self.mpr fun start member => ?_
    obtain ⟨more, rfl⟩ := (List.mem_inits ..).mp member
    exact decide_eq_true (width_le_append start more)
  have beyond : (((border :: rest).inits.tail).map (cell ++ ·)).filter
      (fun start => width start ≤ width cell) = [] := by
    refine List.filter_eq_nil_iff.mpr fun start member => ?_
    rw [List.inits_cons, List.tail_cons, List.map_map] at member
    obtain ⟨more, _, rfl⟩ := List.mem_map.mp member
    have longer := width_le_append (cell ++ [border]) more
    have one : width (cell ++ [border]) = width cell + width [border] :=
      width_append cell (by simpa using steady)
    have taken : width [border] = columns border := by simp [width]
    rw [List.append_assoc, List.singleton_append] at longer
    simp only [Function.comp_apply, decide_eq_true_eq]
    omega
  rw [fitting, List.inits_append, List.filter_append, within, beyond, List.append_nil,
    getLast?_inits, Option.getD_some]

end Text

namespace Table

/-- How wide the columns are, with the blanks around a cell, by the rule above the heading. -/
def columnWidths (rule : String) : List Nat :=
  ((rule.toList.drop 1).dropLast.splitOn top.crossing).map List.length

/-- The texts in a line of a row, each between a border and a blank and the next border. -/
def textsIn : List Nat → List Char → List String
  | [], _ => []
  | width :: rest, line =>
      let cell := Text.fitting width line.tail
      String.ofList cell.tail :: textsIn rest (line.tail.drop cell.length)

def stripped (line : String) : String := String.ofList (line.toList.rdropWhile fun c => c == ' ')

/-- What shows of a cell with these lines. -/
def shown (lines : List String) : String :=
  "\n".intercalate ((lines.map stripped).rdropWhile String.isEmpty)

def visible (cell : String) : String := shown (pieces cell)

def isRule (line : String) : Bool :=
  [belowHeading, between, bottom].any fun rule => line.toList.head? == some rule.first

def cellsOf (widths : List Nat) (row : List String) : List String :=
  (List.range widths.length).map fun column =>
    shown (row.map fun line => (textsIn widths line.toList).getD column "")

/-- The heading and the rows that a drawing shows, cell by cell. -/
def read (drawn : String) : List (List String) :=
  let lines := pieces drawn
  ((lines.tail.splitOnP isRule).filter fun row => !row.isEmpty).map
    (cellsOf (columnWidths (lines.headD "")))

theorem cellLines_eq (cell : String) : cellLines cell = pieces cell := splitOn_eq cell '\n'

theorem columnWidths_drawRule {widths : List Nat} (some : widths ≠ []) :
    columnWidths (drawRule top widths) = widths.map (· + 2) := by
  have spelled : (drawRule top widths).toList = '┌' :: ['┬'].intercalate
      (widths.map fun width => List.replicate (width + 2) '─') ++ ['┐'] := by
    simp [drawRule, top, String.toList_intercalate, Char.toString, Function.comp_def]
  have plain : ∀ segment ∈ widths.map fun width => List.replicate (width + 2) '─',
      '┬' ∉ segment := by
    intro segment member
    obtain ⟨width, _, rfl⟩ := List.mem_map.mp member
    simp [List.mem_replicate]
  rw [columnWidths, spelled]
  simp only [List.cons_append, List.drop_succ_cons, List.drop_zero, List.dropLast_concat]
  change List.map List.length (List.splitOn '┬' _) = _
  rw [List.splitOn_intercalate _ plain (by simpa using some), List.map_map]
  simp [Function.comp_def]

section Lines

theorem columns_border : 0 < Text.columns '┆' ∧ 0 < Text.columns '│' := by decide +kernel

theorem textsIn_intercalate {widths : List Nat} {cells : List (List Char)}
    (exact : List.Forall₂ (fun width cell => Text.width cell = width) widths cells)
    (border : Char) :
    textsIn widths (border :: (['┆'].intercalate cells ++ ['│'])) =
      cells.map fun cell => String.ofList cell.tail := by
  induction exact generalizing border with
  | nil => rfl
  | @cons width cell widths cells taken others ih =>
      subst taken
      cases others with
      | nil =>
          rw [List.intercalate_singleton, textsIn, List.tail_cons,
            Text.fitting_append cell [] columns_border.2 (by decide)]
          rfl
      | @cons next nextCell rest restCells _ _ =>
          have onward := ih '┆'
          rw [List.intercalate_cons_cons, List.append_assoc, List.append_assoc,
            List.singleton_append, textsIn, List.tail_cons,
            Text.fitting_append cell _ columns_border.1 (by decide), List.drop_left, onward]
          rfl

theorem toList_fill (width : Nat) (line : String) : (fill width line).toList =
    ' ' :: (line.toList ++ List.replicate (width - Text.width line.toList + 1) ' ') := by
  simp [fill]

theorem width_fill {width : Nat} {line : String} (fits : Text.width line.toList ≤ width) :
    Text.width (fill width line).toList = width + 2 := by
  have steady : (List.replicate (width - Text.width line.toList + 1) ' ').head? ≠
      some Text.pictureSelector := by
    rw [List.replicate_succ, List.head?_cons]
    decide
  rw [toList_fill, Text.width_blank_cons, Text.width_append _ steady, Text.width_blanks]
  omega

theorem rdropWhile_append_of_all {α : Type} {p : α → Bool} (items : List α) {rest : List α}
    (all : ∀ item ∈ rest, p item = true) : (items ++ rest).rdropWhile p = items.rdropWhile p := by
  rw [List.rdropWhile, List.rdropWhile, List.reverse_append,
    List.dropWhile_append_of_pos (by simpa using all)]

/-- A line as it stands after the blank at the border. -/
def padded (width : Nat) (line : String) : String := String.ofList (fill width line).toList.tail

theorem stripped_padded (width : Nat) (line : String) :
    stripped (padded width line) = stripped line := by
  have blanks : ∀ c ∈ List.replicate (width - Text.width line.toList + 1) ' ',
      (c == ' ') = true := by
    simp [List.mem_replicate]
  rw [stripped, padded, toList_fill, List.tail_cons, String.toList_ofList,
    rdropWhile_append_of_all _ blanks, stripped]

theorem textsIn_drawLine {widths : List Nat} {lines : List String}
    (fits : List.Forall₂ (fun width line => Text.width line.toList ≤ width) widths lines) :
    textsIn (widths.map (· + 2)) (drawLine widths lines).toList =
      List.zipWith padded widths lines := by
  have exact : List.Forall₂ (fun width cell => Text.width cell = width) (widths.map (· + 2))
      ((List.zipWith fill widths lines).map String.toList) := by
    induction fits with
    | nil => exact .nil
    | cons first _ ih => exact .cons (width_fill first) ih
  have spelled : (drawLine widths lines).toList = '│' ::
      (['┆'].intercalate ((List.zipWith fill widths lines).map String.toList) ++ ['│']) := by
    simp [drawLine, String.toList_intercalate]
  rw [spelled, textsIn_intercalate exact, List.map_map, List.map_zipWith]
  rfl

end Lines

section Widths

def Covers (widths : List Nat) (row : List String) : Prop :=
  List.Forall₂ (fun width cell => cellWidth cell ≤ width) widths row

theorem le_foldl_max (numbers : List Nat) : ∀ number ∈ numbers, number ≤ numbers.foldl max 0 :=
  (foldl_covers (fun (number : Nat) known => number ≤ known) (fun _ _ => le_max_left ..)
    (fun _ _ => le_max_right ..) (fun _ _ _ more held => held.trans more) numbers 0).2

theorem width_le_cellWidth {cell line : String} (listed : line ∈ cellLines cell) :
    Text.width line.toList ≤ cellWidth cell :=
  le_foldl_max _ _ (List.mem_map_of_mem listed)

theorem Covers.widen {widths : List Nat} {row other : List String} (covers : Covers widths row)
    (together : other.length = widths.length) :
    Covers (List.zipWith max widths (other.map cellWidth)) row := by
  induction covers generalizing other with
  | nil => exact .nil
  | cons first _ ih =>
      obtain ⟨cell, rest, rfl⟩ := List.exists_cons_of_length_eq_add_one together
      exact .cons (first.trans (le_max_left ..)) (ih (by simpa using together))

theorem covers_zipWith {widths : List Nat} {row : List String}
    (together : row.length = widths.length) :
    Covers (List.zipWith max widths (row.map cellWidth)) row := by
  induction widths generalizing row with
  | nil =>
      rw [List.length_eq_zero_iff.mp together]
      exact .nil
  | cons width widths ih =>
      obtain ⟨cell, rest, rfl⟩ := List.exists_cons_of_length_eq_add_one together
      exact .cons (le_max_right ..) (ih (by simpa using together))

theorem covers_foldl {rows : List (List String)} {widths : List Nat}
    (together : ∀ row ∈ rows, row.length = widths.length) :
    let widest := rows.foldl (fun widths row => List.zipWith max widths (row.map cellWidth)) widths
    (∀ row, Covers widths row → Covers widest row) ∧ ∀ row ∈ rows, Covers widest row := by
  induction rows generalizing widths with
  | nil => simp
  | cons first rest ih =>
      obtain ⟨one, others⟩ := List.forall_mem_cons.mp together
      have same : (List.zipWith max widths (first.map cellWidth)).length = widths.length := by
        simp [one]
      obtain ⟨kept, each⟩ := ih (fun row listed => (others row listed).trans same.symm)
      refine ⟨fun row covers => kept row (covers.widen one), List.forall_mem_cons.mpr ⟨?_, each⟩⟩
      exact kept first (covers_zipWith one)

/-- Every row has a cell in every column. -/
def Full (table : Table) : Prop :=
  table.heading ≠ [] ∧ ∀ row ∈ table.rows, row.length = table.heading.length

theorem Full.covers {table : Table} (full : table.Full) :
    ∀ row ∈ table.heading :: table.rows, Covers table.widths row := by
  have start : Covers (table.heading.map cellWidth) table.heading := by
    rw [Covers, List.forall₂_map_left_iff]
    exact List.forall₂_same.mpr fun _ _ => le_rfl
  have together : ∀ row ∈ table.rows, row.length = (table.heading.map cellWidth).length :=
    fun row listed => by simpa using full.2 row listed
  obtain ⟨kept, each⟩ := covers_foldl together
  exact List.forall_mem_cons.mpr ⟨kept _ start, each⟩

end Widths

section Rows

theorem map_range_getD {items : List String} {count : Nat} (fits : items.length ≤ count) :
    (List.range count).map (items.getD · "") =
      items ++ List.replicate (count - items.length) "" := by
  refine List.ext_getElem (by simp; omega) fun index _ _ => ?_
  rw [List.getElem_map, List.getElem_range, List.getElem_append]
  split
  · rename_i inside
    exact List.getD_eq_getElem _ _ inside
  · rename_i outside
    rw [List.getElem_replicate]
    exact List.getD_eq_default _ _ (Nat.not_lt.mp outside)

theorem shown_filled (width : Nat) {cell : String} {height : Nat}
    (fits : (cellLines cell).length ≤ height) :
    shown ((List.range height).map fun index => padded width ((cellLines cell).getD index "")) =
      visible cell := by
  have lines : ((List.range height).map fun index =>
      padded width ((cellLines cell).getD index "")).map stripped =
        (cellLines cell).map stripped ++
          List.replicate (height - (cellLines cell).length) "" := by
    have blank : stripped "" = "" := rfl
    rw [← blank, ← List.map_replicate, ← List.map_append, ← map_range_getD fits, List.map_map,
      List.map_map]
    exact List.map_congr_left fun index _ => stripped_padded width _
  have empty : ∀ line ∈ List.replicate (height - (cellLines cell).length) "",
      line.isEmpty = true := by
    simp [List.mem_replicate]
  rw [shown, lines, rdropWhile_append_of_all _ empty, visible, shown, cellLines_eq]

theorem Covers.fits {widths : List Nat} {row : List String} (covers : Covers widths row)
    (index : Nat) : List.Forall₂ (fun width line => Text.width line.toList ≤ width) widths
      ((row.map cellLines).map fun cell => cell.getD index "") := by
  rw [List.map_map, List.forall₂_map_right_iff]
  refine covers.imp fun width cell enough => ?_
  by_cases inside : index < (cellLines cell).length
  · rw [Function.comp_apply, List.getD_eq_getElem _ _ inside]
    exact (width_le_cellWidth (List.getElem_mem inside)).trans enough
  · rw [Function.comp_apply, List.getD_eq_default _ _ (Nat.not_lt.mp inside)]
    exact Nat.zero_le _

theorem cellsOf_drawRow {widths : List Nat} {row : List String} (covers : Covers widths row) :
    cellsOf (widths.map (· + 2)) (drawRow widths row) = row.map visible := by
  have together : widths.length = row.length := covers.length_eq
  refine List.ext_getElem (by simp [cellsOf, together]) fun column here _ => ?_
  have listed : column < row.length := by simpa [cellsOf, together] using here
  have tall : (cellLines row[column]).length ≤
      ((row.map cellLines).map List.length).foldl max 0 :=
    le_foldl_max _ _ (by simpa using ⟨_, List.getElem_mem listed, rfl⟩)
  simp only [cellsOf, drawRow, List.getElem_map, List.getElem_range]
  rw [← shown_filled widths[column] tall, List.map_map]
  congr 1
  refine List.map_congr_left fun index _ => ?_
  have short : column < (List.zipWith padded widths
      ((row.map cellLines).map fun cell => cell.getD index "")).length := by
    simpa [together] using listed
  rw [Function.comp_apply, textsIn_drawLine (covers.fits index), List.getD_eq_getElem _ _ short]
  simp

end Rows

section Lines

theorem unbroken_drawRule (widths : List Nat) :
    ∀ rule ∈ [top, belowHeading, between, bottom], Unbroken (drawRule rule widths) := by
  intro rule listed
  have plain : ∀ rule ∈ [top, belowHeading, between, bottom],
      rule.first ≠ '\n' ∧ rule.line ≠ '\n' ∧ rule.crossing ≠ '\n' ∧ rule.last ≠ '\n' := by
    simp [top, belowHeading, between, bottom]
  obtain ⟨first, line, crossing, last⟩ := plain rule listed
  have segments : ∀ segment ∈ widths.map fun width =>
      String.ofList (List.replicate (width + 2) rule.line), Unbroken segment := by
    intro segment listed
    obtain ⟨width, _, rfl⟩ := List.mem_map.mp listed
    rw [unbroken_ofList, List.mem_replicate]
    exact fun found => line found.2.symm
  have single (c : Char) (other : c ≠ '\n') : Unbroken c.toString := by
    simpa [Unbroken, Char.toString] using other.symm
  rw [drawRule, unbroken_append, unbroken_append]
  exact ⟨⟨single _ first, unbroken_intercalate (single _ crossing) segments⟩, single _ last⟩

theorem unbroken_drawLine (widths : List Nat) {lines : List String}
    (each : ∀ line ∈ lines, Unbroken line) : Unbroken (drawLine widths lines) := by
  have filled : ∀ cell ∈ List.zipWith fill widths lines, Unbroken cell := by
    intro cell listed
    rw [← List.map_uncurry_zip_eq_zipWith] at listed
    obtain ⟨⟨width, line⟩, paired, rfl⟩ := List.mem_map.mp listed
    have unbroken := each line (List.of_mem_zip paired).2
    rw [Unbroken] at unbroken
    rw [Unbroken, Function.uncurry_apply_pair, toList_fill]
    simpa [List.mem_replicate] using unbroken
  rw [drawLine, unbroken_append, unbroken_append]
  exact ⟨⟨by decide, unbroken_intercalate (by decide) filled⟩, by decide⟩

theorem unbroken_drawRow (widths : List Nat) (row : List String) :
    ∀ line ∈ drawRow widths row, Unbroken line := by
  intro line listed
  obtain ⟨index, _, rfl⟩ := List.mem_map.mp listed
  refine unbroken_drawLine widths (List.forall_mem_map.mpr (List.forall_mem_map.mpr ?_))
  intro cell _
  rw [cellLines_eq, List.getD_eq_getElem?_getD]
  cases found : (pieces cell)[index]? with
  | none => exact List.not_mem_nil
  | some text => exact unbroken_of_mem_pieces (List.mem_of_getElem? found)

theorem unbroken_drawRows (widths : List Nat) (rows : List (List String)) :
    ∀ line ∈ drawRows widths rows, Unbroken line := by
  induction rows with
  | nil => simp [drawRows]
  | cons row rest ih =>
      cases rest with
      | nil => simpa [drawRows] using unbroken_drawRow widths row
      | cons next later =>
          rw [drawRows, List.map_cons, List.map_cons, List.intercalate_cons_cons]
          simp only [List.forall_mem_append, List.forall_mem_singleton]
          exact ⟨⟨unbroken_drawRow widths row, unbroken_drawRule widths between (by simp)⟩, ih⟩

end Lines

section Reading

theorem isRule_drawRule (widths : List Nat) :
    ∀ rule ∈ [belowHeading, between, bottom], isRule (drawRule rule widths) = true := by
  intro rule listed
  refine List.any_eq_true.mpr ⟨rule, listed, ?_⟩
  simp [drawRule, Char.toString]

theorem isRule_of_mem_drawRow {widths : List Nat} {row : List String} :
    ∀ line ∈ drawRow widths row, isRule line = false := by
  intro line listed
  obtain ⟨index, _, rfl⟩ := List.mem_map.mp listed
  simp [isRule, drawLine, belowHeading, between, bottom]

theorem drawRow_ne_nil {widths : List Nat} {row : List String} (some : row ≠ []) :
    drawRow widths row ≠ [] := by
  obtain ⟨cell, rest, rfl⟩ := List.exists_cons_of_ne_nil some
  have lines := List.length_pos_of_ne_nil (pieces_ne_nil cell)
  have tall := le_foldl_max (((cell :: rest).map cellLines).map List.length) _ List.mem_cons_self
  rw [cellLines_eq] at tall
  rw [← List.length_pos_iff, drawRow, List.length_map, List.length_range]
  omega

theorem filter_splitOnP_drawRows (widths : List Nat) {rows : List (List String)}
    (each : ∀ row ∈ rows, row ≠ []) :
    ((drawRows widths rows).splitOnP isRule).filter (fun lines => !lines.isEmpty) =
      rows.map (drawRow widths) := by
  induction rows with
  | nil => rfl
  | cons row rest ih =>
      obtain ⟨first, others⟩ := List.forall_mem_cons.mp each
      have kept : (!(drawRow widths row).isEmpty) = true := by
        simpa using drawRow_ne_nil first
      cases rest with
      | nil =>
          rw [drawRows, List.map_singleton, List.intercalate_singleton,
            List.splitOnP_eq_singleton isRule_of_mem_drawRow, List.filter_singleton, kept]
          rfl
      | cons next later =>
          have parted := isRule_drawRule widths between (by simp)
          rw [drawRows, List.map_cons, List.map_cons, List.intercalate_cons_cons,
            List.append_assoc, List.singleton_append, List.splitOnP_append_cons _ _ parted,
            List.splitOnP_eq_singleton isRule_of_mem_drawRow, List.singleton_append,
            List.filter_cons_of_pos (by exact kept)]
          exact congrArg _ (ih others)

theorem pieces_draw (table : Table) : pieces table.draw =
    [drawRule top table.widths] ++ drawRow table.widths table.heading ++
      [drawRule belowHeading table.widths] ++ drawRows table.widths table.rows ++
        [drawRule bottom table.widths] := by
  have rows : ∀ line ∈ drawRows table.widths table.rows, Unbroken line :=
    unbroken_drawRows table.widths table.rows
  refine pieces_intercalate (by simp) ?_
  simp only [List.forall_mem_append, List.forall_mem_singleton]
  exact ⟨⟨⟨⟨unbroken_drawRule _ top (by simp), unbroken_drawRow _ _⟩,
    unbroken_drawRule _ belowHeading (by simp)⟩, rows⟩, unbroken_drawRule _ bottom (by simp)⟩

/-- Whatever the cells hold, a drawing shows each of them in its place. -/
theorem read_draw {table : Table} (full : table.Full) :
    read table.draw = (table.heading :: table.rows).map (·.map visible) := by
  have each : ∀ row ∈ table.heading :: table.rows, row ≠ [] := by
    refine List.forall_mem_cons.mpr ⟨full.1, fun row listed => ?_⟩
    rw [← List.length_pos_iff, full.2 row listed]
    exact List.length_pos_iff.mpr full.1
  have widths : table.widths ≠ [] := by
    have covers := full.covers _ List.mem_cons_self
    rw [← List.length_pos_iff, covers.length_eq]
    exact List.length_pos_iff.mpr full.1
  have below := isRule_drawRule table.widths belowHeading (by simp)
  have ended := isRule_drawRule table.widths bottom (by simp)
  -- the rules part the lines of the heading and of each row, with nothing after the last rule
  have rows : ((pieces table.draw).tail.splitOnP isRule).filter (fun lines => !lines.isEmpty) =
      (table.heading :: table.rows).map (drawRow table.widths) := by
    have kept : (!(drawRow table.widths table.heading).isEmpty) = true := by
      simpa using drawRow_ne_nil full.1
    rw [pieces_draw, List.append_assoc, List.append_assoc, List.append_assoc,
      List.singleton_append, List.tail_cons, List.singleton_append,
      List.splitOnP_append_cons _ _ below, List.splitOnP_eq_singleton isRule_of_mem_drawRow,
      List.splitOnP_append_cons _ _ ended, List.splitOnP_nil, List.singleton_append,
      List.filter_cons_of_pos (by exact kept), List.filter_append,
      filter_splitOnP_drawRows _ (List.forall_mem_cons.mp each).2]
    simp
  have first : (pieces table.draw).headD "" = drawRule top table.widths := by
    rw [pieces_draw]
    rfl
  rw [read, rows, first, columnWidths_drawRule widths, List.map_map]
  exact List.map_congr_left fun row listed => cellsOf_drawRow (full.covers row listed)

/-- No blank at the end of a line and no empty line at the end. -/
def Legible (cell : String) : Prop :=
  (∀ line ∈ pieces cell, line.toList.getLast? ≠ some ' ') ∧ (pieces cell).getLast? ≠ some ""

instance : DecidablePred Legible := fun cell =>
  inferInstanceAs (Decidable ((∀ line ∈ pieces cell, line.toList.getLast? ≠ some ' ') ∧
    (pieces cell).getLast? ≠ some ""))

theorem visible_eq_self {cell : String} (legible : Legible cell) : visible cell = cell := by
  have lines : (pieces cell).map stripped = pieces cell := by
    refine (List.map_congr_left fun line listed => ?_).trans (List.map_id _)
    have kept : line.toList.rdropWhile (fun c => c == ' ') = line.toList := by
      refine List.rdropWhile_eq_self_iff.mpr fun some blank => legible.1 line listed ?_
      rw [List.getLast?_eq_some_getLast some, beq_iff_eq.mp blank]
    rw [stripped, kept, String.ofList_toList, id]
  have last : (pieces cell).rdropWhile String.isEmpty = pieces cell := by
    refine List.rdropWhile_eq_self_iff.mpr fun some empty => legible.2 ?_
    rw [List.getLast?_eq_some_getLast some, String.isEmpty_iff.mp empty]
  rw [visible, shown, lines, last, intercalate_pieces]

end Reading

end Table

end Compliance
