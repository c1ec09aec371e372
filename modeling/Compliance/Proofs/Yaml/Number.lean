import Mathlib.Data.List.Forall2
import Mathlib.Data.Nat.Digits.Defs
import Compliance.Project.Settings

/-!
How counts are spelled in plain scalars: in decimal digits, or in other digits after a mark.
-/

namespace Compliance.Yaml.Plain


def hexDigits : List (Char × Nat) :=
  "0123456789abcdef".toList.zipIdx ++ "ABCDEF".toList.zipIdx 10

/-- The digits spell the number, the first of them counting most. -/
def Numeral (radix : Nat) (digits : List Char) (value : Nat) : Prop :=
  digits ≠ [] ∧ ∃ values,
    List.Forall₂ (fun c digit => (c, digit) ∈ hexDigits ∧ digit < radix) digits values ∧
      Nat.ofDigits radix values.reverse = value

/-- A number in decimal digits that do not start with a zero, or after a mark in other digits. -/
inductive Magnitude : List Char → Nat → Prop
  | decimal {digits : List Char} : digits ≠ [] → (∀ c ∈ digits, c.isDigit = true) →
      (digits.head? = some '0' → digits = ['0']) →
        Magnitude digits (Nat.ofDigitChars 10 digits 0)
  | marked {letter : Char} {radix : Nat} {digits : List Char} {value : Nat} :
      (letter, radix) ∈ [('x', 16), ('o', 8), ('b', 2)] → Numeral radix digits value →
        Magnitude ('0' :: letter :: digits) value

/-- A count of 64 bits, after a plus sign or not. -/
structure Count (text : List Char) (value : Nat) : Prop where
  fits : value < wordCount
  spelled : ∃ digits, (text = digits ∨ text = '+' :: digits) ∧ Magnitude digits value

theorem toNat_lt_of_hexDigit? {c : Char} {digit : Nat}
    (found : Quoted.hexDigit? c = some digit) : c.toNat < 128 := by
  have bound (last : Char) (within : c ≤ last) (ascii : last.toNat < 128) : c.toNat < 128 :=
    (UInt32.le_iff_toNat_le.mp within).trans_lt ascii
  rw [Quoted.hexDigit?] at found
  split at found
  · rename_i decimal
    simp only [Char.isDigit, Bool.and_eq_true, decide_eq_true_eq] at decimal
    exact bound '9' decimal.2 (by decide)
  · split at found
    · rename_i small
      exact bound 'f' small.2 (by decide)
    · split at found
      · rename_i capital
        exact bound 'F' capital.2 (by decide)
      · cases found

theorem hexDigit?_iff (c : Char) (digit : Nat) :
    Quoted.hexDigit? c = some digit ↔ (c, digit) ∈ hexDigits := by
  constructor
  · intro found
    have listed : ∀ code < 128, ∀ digit ∈ Quoted.hexDigit? (Char.ofNat code),
        (Char.ofNat code, digit) ∈ hexDigits := by decide +kernel
    have same := listed c.toNat (toNat_lt_of_hexDigit? found) digit
    rw [Char.ofNat_toNat] at same
    exact same found
  · have each : ∀ entry ∈ hexDigits, Quoted.hexDigit? entry.1 = some entry.2 := by decide +kernel
    exact each (c, digit)

theorem digitIn?_iff (radix : Nat) (c : Char) (digit : Nat) :
    digitIn? radix c = some digit ↔ (c, digit) ∈ hexDigits ∧ digit < radix := by
  rw [digitIn?, Option.filter_eq_some_iff, hexDigit?_iff, decide_eq_true_eq]

theorem foldlM_digitIn? (radix : Nat) (digits : List Char) (start total : Nat) :
    digits.foldlM (fun known c => (digitIn? radix c).map (radix * known + ·)) start =
      some total ↔ ∃ values,
        List.Forall₂ (fun c digit => (c, digit) ∈ hexDigits ∧ digit < radix) digits values ∧
          values.foldl (fun known digit => radix * known + digit) start = total := by
  induction digits generalizing start with
  | nil => simp
  | cons c rest ih =>
      simp only [List.foldlM_cons, Option.bind_eq_bind, Option.bind_eq_some_iff,
        Option.map_eq_some_iff, digitIn?_iff, ih, List.forall₂_cons_left_iff]
      constructor
      · rintro ⟨_, ⟨digit, first, rfl⟩, values, others, total⟩
        exact ⟨digit :: values, ⟨digit, values, first, others, rfl⟩, total⟩
      · rintro ⟨_, ⟨digit, values, first, others, rfl⟩, total⟩
        exact ⟨_, ⟨digit, first, rfl⟩, values, others, total⟩

theorem ofDigits_reverse (radix : Nat) (values : List Nat) : Nat.ofDigits radix values.reverse =
    values.foldl (fun known digit => radix * known + digit) 0 := by
  rw [Nat.ofDigits_eq_foldr, List.foldr_reverse]
  simp only [Nat.cast_id, Nat.add_comm]

theorem natural?_iff (radix : Nat) (digits : List Char) (value : Nat) :
    natural? radix digits = some value ↔ Numeral radix digits value := by
  simp only [natural?, Numeral, ofDigits_reverse]
  cases digits with
  | nil => simp
  | cons c rest => simpa using foldlM_digitIn? radix (c :: rest) 0 value

theorem digitIn?_ten (c : Char) :
    digitIn? 10 c = if c.isDigit then some (c.toNat - '0'.toNat) else none := by
  rw [digitIn?, Yaml.Quoted.hexDigit?]
  split
  · rename_i digit
    simp only [Char.isDigit, Bool.and_eq_true, decide_eq_true_eq, ge_iff_le] at digit
    have last : c.toNat ≤ 57 := UInt32.le_iff_toNat_le.mp digit.2
    have small : c.toNat - 48 < 10 := by omega
    simpa using small
  · split
    · simp
    · split <;> simp

theorem foldlM_digitIn?_ten (digits : List Char) (value total : Nat) :
    digits.foldlM (fun known c => (digitIn? 10 c).map (10 * known + ·)) value = some total ↔
      (∀ c ∈ digits, c.isDigit = true) ∧ Nat.ofDigitChars 10 digits value = total := by
  induction digits generalizing value with
  | nil => simp
  | cons c rest ih =>
      rw [List.foldlM_cons, digitIn?_ten, List.forall_mem_cons, Nat.ofDigitChars_cons]
      cases digit : c.isDigit with
      | false => simp
      | true => simpa using ih (10 * value + (c.toNat - '0'.toNat))

theorem natural?_ten_iff (digits : List Char) (value : Nat) :
    natural? 10 digits = some value ↔
      digits ≠ [] ∧ (∀ c ∈ digits, c.isDigit = true) ∧ Nat.ofDigitChars 10 digits 0 = value := by
  rw [natural?]
  cases digits with
  | nil => simp
  | cons c rest => simpa using foldlM_digitIn?_ten (c :: rest) 0 value

theorem marked?_iff (text : List Char) (value : Nat) : marked? text = some value ↔
    ∃ letter radix digits, text = '0' :: letter :: digits ∧
      (letter, radix) ∈ [('x', 16), ('o', 8), ('b', 2)] ∧ Numeral radix digits value := by
  constructor
  · intro found
    unfold marked? at found
    split at found
    · exact ⟨'x', 16, _, rfl, by decide, (natural?_iff ..).mp found⟩
    · exact ⟨'o', 8, _, rfl, by decide, (natural?_iff ..).mp found⟩
    · exact ⟨'b', 2, _, rfl, by decide, (natural?_iff ..).mp found⟩
    · cases found
  · rintro ⟨letter, radix, digits, rfl, mark, numeral⟩
    simp only [List.mem_cons, Prod.mk.injEq, List.not_mem_nil, or_false] at mark
    obtain ⟨rfl, rfl⟩ | ⟨rfl, rfl⟩ | ⟨rfl, rfl⟩ := mark
    all_goals exact (natural?_iff ..).mpr numeral

theorem marked?_eq_none {text : List Char} (each : ∀ c ∈ text, c.isDigit = true) :
    marked? text = none := by
  have marks : ∀ entry ∈ [('x', 16), ('o', 8), ('b', 2)], entry.1.isDigit = false := by decide
  refine Option.eq_none_iff_forall_ne_some.mpr fun value found => ?_
  obtain ⟨letter, radix, digits, rfl, mark, _⟩ := (marked?_iff ..).mp found
  have digit := each letter (by simp)
  rw [marks (letter, radix) mark] at digit
  contradiction

theorem isPaddedWithZero_iff {text : List Char} (each : ∀ c ∈ text, c.isDigit = true) :
    isPaddedWithZero text = true ↔ ∃ c rest, text = '0' :: c :: rest := by
  have bare : unsigned text = text := by
    unfold unsigned
    split
    · exact absurd (each '+' List.mem_cons_self) (by decide)
    · exact absurd (each '-' List.mem_cons_self) (by decide)
    · rfl
  rw [isPaddedWithZero, bare]
  split
  · rename_i c rest
    have others : ((c :: rest).all Char.isDigit) = true :=
      List.all_eq_true.mpr fun digit listed => each digit (List.mem_cons_of_mem _ listed)
    simp only [others, true_iff]
    exact ⟨c, rest, rfl⟩
  · rename_i other
    refine iff_of_false Bool.false_ne_true ?_
    rintro ⟨c, rest, rfl⟩
    exact other c rest rfl

theorem magnitude?_iff (text : List Char) (value : Nat) :
    magnitude? text = some value ↔ Magnitude text value := by
  rw [magnitude?, Option.or_eq_some_iff]
  constructor
  · rintro (found | ⟨_, found⟩)
    · obtain ⟨letter, radix, digits, rfl, mark, numeral⟩ := (marked?_iff ..).mp found
      exact .marked mark numeral
    · split at found
      · cases found
      · rename_i unpadded
        obtain ⟨some, each, rfl⟩ := (natural?_ten_iff ..).mp found
        rw [isPaddedWithZero_iff each] at unpadded
        refine .decimal some each fun zero => ?_
        obtain ⟨rest, rfl⟩ := List.head?_eq_some_iff.mp zero
        cases rest with
        | nil => rfl
        | cons c rest => exact absurd ⟨c, rest, rfl⟩ unpadded
  · intro spelled
    cases spelled with
    | decimal some each zero =>
        have unpadded : isPaddedWithZero text = false := by
          rw [← Bool.not_eq_true, isPaddedWithZero_iff each]
          rintro ⟨c, rest, rfl⟩
          cases zero rfl
        rw [unpadded]
        exact .inr ⟨marked?_eq_none each, (natural?_ten_iff ..).mpr ⟨some, each, rfl⟩⟩
    | marked mark numeral => exact .inl ((marked?_iff ..).mpr ⟨_, _, _, rfl, mark, numeral⟩)

theorem Magnitude.unsigned {text : List Char} {value : Nat} (spelled : Magnitude text value) :
    text.head? ≠ some '+' ∧ text.head? ≠ some '-' := by
  cases spelled with
  | decimal some each zero =>
      have digits : ∀ sign, sign.isDigit = false → text.head? ≠ Option.some sign := by
        intro sign other first
        rw [each sign (List.mem_of_head? first)] at other
        contradiction
      exact ⟨digits '+' (by decide), digits '-' (by decide)⟩
  | marked mark numeral => exact ⟨by simp, by simp⟩

theorem count_iff (text : List Char) (value : Nat) : Count text value ↔
    value < wordCount ∧ integer? text = some (.ofNat value) ∧ text.head? ≠ some '-' := by
  constructor
  · rintro ⟨fits, digits, rfl | rfl, spelled⟩
    · obtain ⟨plus, minus⟩ := spelled.unsigned
      refine ⟨fits, ?_, minus⟩
      unfold integer?
      split
      · exact absurd rfl plus
      · exact absurd rfl minus
      · rw [(magnitude?_iff ..).mpr spelled]
        rfl
    · refine ⟨fits, ?_, by simp⟩
      rw [integer?, (magnitude?_iff ..).mpr spelled]
      rfl
  · rintro ⟨fits, found, minus⟩
    refine ⟨fits, ?_⟩
    unfold integer? at found
    split at found
    · obtain ⟨known, spelled, same⟩ := Option.map_eq_some_iff.mp found
      rw [Int.ofNat.inj same] at spelled
      exact ⟨_, .inr rfl, (magnitude?_iff ..).mp spelled⟩
    · exact absurd rfl minus
    · obtain ⟨known, spelled, same⟩ := Option.map_eq_some_iff.mp found
      rw [Int.ofNat.inj same] at spelled
      exact ⟨_, .inl rfl, (magnitude?_iff ..).mp spelled⟩

end Compliance.Yaml.Plain
