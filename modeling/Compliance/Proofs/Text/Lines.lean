import Compliance.Proofs.Text.Sentence
import Compliance.Report

/-!
Texts line by line. A text of lines that are each ended by a line feed has just these lines, unless
one of them holds a line feed itself and goes on in further lines.
-/

namespace Compliance

def Unbroken (text : String) : Prop := '\n' ∉ text.toList

instance : DecidablePred Unbroken := fun text =>
  inferInstanceAs (Decidable ('\n' ∉ text.toList))

/-- The stretches of a text between its line feeds. -/
def pieces (text : String) : List String :=
  (text.toList.splitOnP fun c => c == '\n').map String.ofList

/-- What a text goes on with after its first line. -/
def continuations (text : String) : List String := (pieces text).tail

/-- The lines of a text; after a line feed at the end there is none. -/
def textLines (text : String) : List String :=
  if (pieces text).getLast? = some "" then (pieces text).dropLast else pieces text

def begins (start text : String) : Bool := start.toList.isPrefixOf text.toList

/-- Neither text is how the other one begins. -/
def apart (left right : String) : Bool := !begins left right && !begins right left

theorem begins_append (start text : String) : begins start (start ++ text) = true := by
  simp [begins]

theorem begins_append_of_apart {mark start : String} (distinct : apart mark start = true)
    (text : String) : begins mark (start ++ text) = false := by
  simp only [apart, begins, Bool.and_eq_true, Bool.not_eq_true', Bool.eq_false_iff, ne_eq,
    List.isPrefixOf_iff_prefix] at distinct ⊢
  rw [String.toList_append]
  intro begun
  exact (List.prefix_or_prefix_of_prefix begun (List.prefix_append _ _)).elim distinct.1 distinct.2

section Unbroken

theorem unbroken_append (left right : String) :
    Unbroken (left ++ right) ↔ Unbroken left ∧ Unbroken right := by
  simp [Unbroken]

theorem unbroken_ofList (text : List Char) : Unbroken (String.ofList text) ↔ '\n' ∉ text := by
  rw [Unbroken, String.toList_ofList]

theorem unbroken_intercalate {separator : String} (unbroken : Unbroken separator)
    {texts : List String} (each : ∀ text ∈ texts, Unbroken text) :
    Unbroken (separator.intercalate texts) := by
  rw [Unbroken, String.toList_intercalate, List.intercalate]
  induction texts with
  | nil => exact List.not_mem_nil
  | cons text rest ih =>
      obtain ⟨first, others⟩ := List.forall_mem_cons.mp each
      cases rest with
      | nil => simpa [Unbroken] using first
      | cons next later =>
          rw [List.map_cons, List.map_cons, List.intersperse_cons_cons, List.flatten_cons,
            List.flatten_cons, List.mem_append, List.mem_append, not_or, not_or]
          exact ⟨first, unbroken, ih others⟩

theorem unbroken_of_isDigit {text : List Char} (digits : ∀ c ∈ text, c.isDigit = true) :
    '\n' ∉ text := fun member => absurd (digits _ member) (by decide)

theorem unbroken_toString (number : Nat) : Unbroken (toString number) := by
  change '\n' ∉ number.repr.toList
  rw [Nat.toList_repr]
  exact unbroken_of_isDigit fun c member =>
    Nat.isDigit_of_mem_toDigits (by decide) (by decide) member

end Unbroken

section Pieces

theorem splitOnP_append_unbroken {start : List Char} (unbroken : '\n' ∉ start)
    (text : List Char) :
    (start ++ text).splitOnP (fun c => c == '\n') =
      (text.splitOnP fun c => c == '\n').modifyHead (start ++ ·) := by
  induction start with
  | nil =>
      rw [List.nil_append]
      cases text.splitOnP fun c => c == '\n' <;> rfl
  | cons c rest ih =>
      rw [List.mem_cons, not_or] at unbroken
      obtain ⟨other, unbroken⟩ := unbroken
      have letter : (c == '\n') = false := by simpa using Ne.symm other
      rw [List.cons_append, List.splitOnP_cons_eq_if_modifyHead, letter, ih unbroken,
        List.modifyHead_modifyHead]
      rfl

theorem pieces_ne_nil (text : String) : pieces text ≠ [] := by
  rw [pieces, ne_eq, List.map_eq_nil_iff]
  exact List.splitOnP_ne_nil _ _

theorem pieces_append {start : String} (unbroken : Unbroken start) (text : String) :
    ∃ first, pieces (start ++ text) = (start ++ first) :: continuations text := by
  obtain ⟨first, others, split⟩ := List.exists_cons_of_ne_nil
    (List.splitOnP_ne_nil (fun c => c == '\n') text.toList)
  refine ⟨String.ofList first, ?_⟩
  rw [continuations, pieces, pieces, String.toList_append, splitOnP_append_unbroken unbroken,
    split]
  simp

theorem pieces_of_unbroken {text : String} (unbroken : Unbroken text) : pieces text = [text] := by
  have letters : ∀ c ∈ text.toList, (c == '\n') = false := by
    intro c member
    rw [beq_eq_false_iff_ne]
    rintro rfl
    exact unbroken member
  rw [pieces, List.splitOnP_eq_singleton letters, List.map_singleton, String.ofList_toList]

theorem pieces_append_line (line rest : String) :
    pieces (line ++ "\n" ++ rest) = pieces line ++ pieces rest := by
  have spelled : (line ++ "\n" ++ rest).toList = line.toList ++ '\n' :: rest.toList := by simp
  rw [pieces, spelled, List.splitOnP_append_cons _ _ (by rfl), List.map_append, pieces, pieces]

theorem pieces_intercalate {lines : List String} (some : lines ≠ [])
    (each : ∀ line ∈ lines, Unbroken line) : pieces ("\n".intercalate lines) = lines := by
  have split : (['\n'].intercalate (lines.map String.toList)).splitOn '\n' =
      lines.map String.toList :=
    List.splitOn_intercalate '\n' (List.forall_mem_map.mpr each) (by simpa using some)
  rw [pieces, String.toList_intercalate]
  refine (congrArg (List.map String.ofList) split).trans ?_
  simp

theorem intercalate_pieces (text : String) : "\n".intercalate (pieces text) = text := by
  have spelled : (pieces text).map String.toList = text.toList.splitOn '\n' := by
    rw [pieces, List.map_map]
    simp [Function.comp_def, List.splitOn]
  rw [← String.toList_inj, String.toList_intercalate, spelled]
  exact List.intercalate_splitOn '\n'

theorem unbroken_of_mem_pieces {text line : String} (listed : line ∈ pieces text) :
    Unbroken line := by
  obtain ⟨piece, split, rfl⟩ := List.mem_map.mp listed
  rw [unbroken_ofList]
  intro broken
  exact absurd (Text.mem_of_mem_splitOnP split _ broken).2 (by decide)

theorem continuations_eq_nil_iff (text : String) :
    continuations text = [] ↔ Unbroken text := by
  constructor
  · intro nothing broken
    obtain ⟨before, after, spelled⟩ := List.append_of_mem broken
    have joined : text = String.ofList before ++ "\n" ++ String.ofList after := by
      rw [← String.toList_inj, spelled]
      simp
    obtain ⟨first, others, split⟩ :=
      List.exists_cons_of_ne_nil (pieces_ne_nil (String.ofList before))
    rw [continuations, joined, pieces_append_line, split, List.cons_append, List.tail_cons,
      List.append_eq_nil_iff] at nothing
    exact pieces_ne_nil _ nothing.2
  · intro unbroken
    rw [continuations, pieces_of_unbroken unbroken, List.tail_cons]

end Pieces

section Lines

theorem ofLines_cons (line : String) (rest : List String) :
    Report.ofLines (line :: rest) = line ++ "\n" ++ Report.ofLines rest := by
  rw [Report.ofLines, List.map_cons, String.join_cons, Report.ofLines]

theorem ofLines_append (lines rest : List String) :
    Report.ofLines (lines ++ rest) = Report.ofLines lines ++ Report.ofLines rest := by
  induction lines with
  | nil => exact (String.empty_append).symm
  | cons line others ih =>
      rw [List.cons_append, ofLines_cons, ofLines_cons, ih, ← String.append_assoc]

theorem ofLines_flatMap {α : Type} (lines : α → List String) (items : List α) :
    Report.ofLines (items.flatMap lines) =
      String.join (items.map fun item => Report.ofLines (lines item)) := by
  induction items with
  | nil => rfl
  | cons item rest ih =>
      rw [List.flatMap_cons, ofLines_append, ih, List.map_cons, String.join_cons]

theorem pieces_ofLines (lines : List String) :
    pieces (Report.ofLines lines) = lines.flatMap pieces ++ [""] := by
  induction lines with
  | nil => rfl
  | cons line rest ih =>
      rw [ofLines_cons, pieces_append_line, ih, List.flatMap_cons, List.append_assoc]

theorem textLines_ofLines (lines : List String) :
    textLines (Report.ofLines lines) = lines.flatMap pieces := by
  rw [textLines, pieces_ofLines]
  simp

theorem flatMap_pieces_of_unbroken {lines : List String}
    (unbroken : ∀ line ∈ lines, Unbroken line) : lines.flatMap pieces = lines := by
  induction lines with
  | nil => rfl
  | cons line rest ih =>
      obtain ⟨first, others⟩ := List.forall_mem_cons.mp unbroken
      rw [List.flatMap_cons, pieces_of_unbroken first, ih others, List.singleton_append]

end Lines

end Compliance
