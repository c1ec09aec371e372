import Mathlib.Tactic.SplitIfs
import Compliance.Json.Printer
import Compliance.Json.Reader.String

/-!
A string that was written with escapes is read back letter for letter.
-/

namespace Compliance.Json

theorem codeUnit_of_control {point : Nat} (control : point < 0x20) (rest : List Char) :
    codeUnit ('0' :: '0' :: hexDigit (point / 16) :: hexDigit point :: rest) =
      .ok (point, rest) := by
  have number : hexNumber? ['0', '0', hexDigit (point / 16), hexDigit point] = some point := by
    revert point
    decide
  have whole : ¬ byteCount ['0', '0', hexDigit (point / 16), hexDigit point] < 4 := by
    clear number
    revert point
    decide
  simp only [codeUnit, List.take_succ_cons, List.take_zero, List.drop_succ_cons, List.drop_zero,
    whole, number, if_false]

theorem escape_of_control {c : Char} (control : c.toNat < 0x20) (rest : List Char) :
    escape ('u' :: '0' :: '0' :: hexDigit (c.toNat / 16) :: hexDigit c.toNat :: rest) =
      .ok (c, rest) := by
  have notTrailing : isTrailing c.toNat = false := by
    simp only [isTrailing, Bool.and_eq_false_iff, decide_eq_false_iff_not]
    omega
  have notLeading : isLeading c.toNat = false := by
    simp only [isLeading, Bool.and_eq_false_iff, decide_eq_false_iff_not]
    omega
  simp only [escape, codeUnit_of_control control, notTrailing, notLeading, Char.ofNat_toNat,
    Bool.false_eq_true, if_false]

theorem escapedChar_cases (c : Char) :
    (∃ code, escapedChar c = '\\' :: code ∧ ∀ rest, escape (code ++ rest) = .ok (c, rest)) ∨
      (escapedChar c = [c] ∧ c ≠ '"' ∧ c ≠ '\\' ∧ ¬ c.toNat < 0x20) := by
  rw [escapedChar]
  split_ifs with marked newLine lineStart tab back formFeed control
  · rcases marked with rfl | rfl
    · exact Or.inl ⟨['"'], rfl, fun rest => rfl⟩
    · exact Or.inl ⟨['\\'], rfl, fun rest => rfl⟩
  · exact Or.inl ⟨['n'], rfl, fun rest => newLine ▸ rfl⟩
  · exact Or.inl ⟨['r'], rfl, fun rest => lineStart ▸ rfl⟩
  · exact Or.inl ⟨['t'], rfl, fun rest => tab ▸ rfl⟩
  · exact Or.inl ⟨['b'], rfl, fun rest => back ▸ rfl⟩
  · exact Or.inl ⟨['f'], rfl, fun rest => formFeed ▸ rfl⟩
  · exact Or.inl ⟨_, rfl, escape_of_control control⟩
  · obtain ⟨notQuote, notBackslash⟩ := not_or.mp marked
    exact Or.inr ⟨rfl, notQuote, notBackslash, control⟩

theorem stringRest_escapedChar (c : Char) (done : List Char) (fuel : Nat) (rest : List Char) :
    stringRest done (fuel + 1) (escapedChar c ++ rest) = stringRest (c :: done) fuel rest := by
  rcases escapedChar_cases c with ⟨code, written, read⟩ | ⟨written, notQuote, notBackslash, visible⟩
  · rw [written, List.cons_append, stringRest, if_neg (by decide), if_pos rfl, read rest]
  · rw [written, List.cons_append, stringRest, if_neg notQuote, if_neg notBackslash,
      if_neg visible, List.nil_append]

theorem stringRest_escaped (chars done : List Char) (fuel : Nat) (rest : List Char)
    (enough : chars.length < fuel) :
    stringRest done fuel (chars.flatMap escapedChar ++ '"' :: rest) =
      .ok (String.ofList (done.reverse ++ chars), rest) := by
  obtain ⟨left, rfl⟩ := Nat.exists_eq_succ_of_ne_zero (Nat.ne_zero_of_lt enough)
  induction chars generalizing done left with
  | nil => simp [stringRest]
  | cons c chars ih =>
      obtain ⟨less, rfl⟩ := Nat.exists_eq_succ_of_ne_zero
        (Nat.ne_zero_of_lt (Nat.lt_of_succ_lt_succ enough))
      rw [List.flatMap_cons, List.append_assoc, stringRest_escapedChar,
        ih (c :: done) less (Nat.lt_of_succ_lt_succ enough)]
      simp

theorem length_le_escaped (chars : List Char) :
    chars.length ≤ (chars.flatMap escapedChar).length := by
  induction chars with
  | nil => exact Nat.le_refl 0
  | cons c chars ih =>
      have written : 0 < (escapedChar c).length := by
        rcases escapedChar_cases c with ⟨code, written, _⟩ | ⟨written, _⟩ <;> simp [written]
      simp only [List.flatMap_cons, List.length_append, List.length_cons]
      omega

theorem stringRest_of_text (text : String) (fuel : Nat) (rest : List Char)
    (enough : (stringText text).length ≤ fuel + 1) :
    stringRest [] fuel (text.toList.flatMap escapedChar ++ '"' :: rest) = .ok (text, rest) := by
  have short := length_le_escaped text.toList
  rw [stringRest_escaped]
  · simp
  · simp only [stringText, List.length_append, List.length_cons, List.length_nil] at enough
    omega

end Compliance.Json
