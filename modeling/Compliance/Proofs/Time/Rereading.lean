import Mathlib.Algebra.GroupWithZero.Nat
import Compliance.Proofs.Text.Trimming
import Compliance.Time.Reader

/-!
Moments read back from their texts. Every number in the text of a moment is read as it was written,
up to the mark after it, so the moment comes back as it was, leap seconds included, and two moments
with one text are the same.
-/

namespace Compliance.Timestamp

/-- A day of the calendar and a second of that day; a leap second only continues a fifty-ninth. -/
structure Proper (time : Timestamp) : Prop where
  date : Date.ofParts? time.date.year time.date.month time.date.day = some time.date
  second : time.second < secondsPerDay
  nanos : time.nanos < 2 * nanosPerSecond
  leap : nanosPerSecond ≤ time.nanos → time.second % 60 = 59

theorem proper_epoch : epoch.Proper where
  date := by decide
  second := by decide
  nanos := by decide
  leap := by decide

/-- No digit goes on where a number ends. -/
def EndsNumber (rest : List Char) : Prop := ∀ c ∈ rest.head?, c.isDigit = false

section Numbers

theorem isDigit_of_mem_padded {width value : Nat} {c : Char} (member : c ∈ padded width value) :
    c.isDigit = true := by
  rcases List.mem_append.mp member with zero | digit
  · rw [zeros, List.mem_replicate] at zero
    rw [zero.2]
    rfl
  · exact Nat.isDigit_of_mem_toDigits (by decide) (by decide) digit

theorem numberOf_padded (width value : Nat) : numberOf (padded width value) = value := by
  change Nat.ofDigitChars 10 (padded width value) 0 = value
  rw [padded, Nat.ofDigitChars_append, zeros, Nat.ofDigitChars_replicate_zero, Nat.mul_zero]
  exact Nat.ofDigitChars_ten_toDigits

theorem padded_ne_nil (width value : Nat) : padded width value ≠ [] := by
  rw [padded, ne_eq, List.append_eq_nil_iff]
  exact fun empty => Nat.toDigits_ne_nil empty.2

theorem length_padded {width value : Nat} (positive : 0 < width) (fits : value < 10 ^ width) :
    (padded width value).length = width := by
  have short : (Decimal.digits value).length ≤ width :=
    (Nat.length_toDigits_le_iff (by decide) positive).mpr fits
  rw [padded, zeros, List.length_append, List.length_replicate]
  omega

theorem isBlank_of_isDigit {c : Char} (digit : c.isDigit = true) : Text.isBlank c = false := by
  have range : 48 ≤ c.toNat ∧ c.toNat ≤ 57 := by
    simpa [Char.isDigit, UInt32.le_iff_toNat_le] using digit
  simp only [Text.isBlank, Bool.or_eq_false_iff, Bool.and_eq_false_iff, beq_eq_false_iff_ne,
    decide_eq_false_iff_not]
  omega

theorem dropBlanks_padded (width value : Nat) (rest : List Char) :
    Text.dropBlanks (padded width value ++ rest) = padded width value ++ rest := by
  obtain ⟨first, others, spelled⟩ := List.exists_cons_of_ne_nil (padded_ne_nil width value)
  have digit : first.isDigit = true :=
    isDigit_of_mem_padded (by rw [spelled]; exact List.mem_cons_self)
  rw [spelled, List.cons_append, Text.dropBlanks_cons_letter (isBlank_of_isDigit digit)]

theorem takeWhile_of_endsNumber {rest : List Char} (ends : EndsNumber rest) (count : Nat) :
    (rest.take count).takeWhile Char.isDigit = [] := by
  cases rest with
  | nil => rw [List.take_nil, List.takeWhile_nil]
  | cons c others =>
      have stops : c.isDigit = false := ends c rfl
      cases count with
      | zero => rfl
      | succ count => rw [List.take_succ_cons, List.takeWhile_cons_of_neg (by simp [stops])]

theorem number_of_digits {wanted : Nat} {text digits : List Char} (something : digits ≠ [])
    (read : (text.take wanted).takeWhile Char.isDigit = digits) :
    number wanted text = .ok (numberOf digits, text.drop digits.length) := by
  cases text with
  | nil =>
      rw [List.take_nil, List.takeWhile_nil] at read
      exact absurd read.symm something
  | cons c rest =>
      unfold number
      rw [read]
      cases digits with
      | nil => exact absurd rfl something
      | cons first others => rfl

theorem number_append {width wanted value : Nat} {rest : List Char}
    (fits : (padded width value).length ≤ wanted)
    (ends : (padded width value).length = wanted ∨ EndsNumber rest) :
    number wanted (padded width value ++ rest) = .ok (value, rest) := by
  have digits : ∀ c ∈ padded width value, c.isDigit = true := fun _ => isDigit_of_mem_padded
  have ended : (rest.take (wanted - (padded width value).length)).takeWhile Char.isDigit = [] := by
    rcases ends with exact | ends
    · rw [exact, Nat.sub_self, List.take_zero, List.takeWhile_nil]
    · exact takeWhile_of_endsNumber ends _
  have read : ((padded width value ++ rest).take wanted).takeWhile Char.isDigit =
      padded width value := by
    rw [List.take_append, List.take_of_length_le fits, List.takeWhile_append_of_pos digits, ended,
      List.append_nil]
  rw [number_of_digits (padded_ne_nil width value) read, numberOf_padded, List.drop_left]

end Numbers

section Parts

variable (rest : List Char)

theorem endsNumber_cons {c : Char} (other : c.isDigit = false) : EndsNumber (c :: rest) := by
  rintro _ ⟨⟩
  exact other

theorem mark_cons {wanted : Char} (visible : Text.isBlank wanted = false) :
    mark wanted (wanted :: rest) = .ok rest := by
  rw [mark, Text.dropBlanks_cons_letter visible]
  exact if_pos rfl

theorem bounded_append {least greatest value : Nat} (atLeast : least ≤ value)
    (atMost : value ≤ greatest) (short : greatest < 100) :
    bounded least greatest (padded 2 value ++ rest) = .ok (value, rest) := by
  have two : (padded 2 value).length = 2 :=
    length_padded (by decide) (Nat.lt_of_le_of_lt atMost short)
  rw [bounded, dropBlanks_padded, number_append (Nat.le_of_eq two) (.inl two)]
  exact if_pos ⟨atLeast, atMost⟩

theorem year_unsigned {value : Nat} (short : value ≤ 9999) :
    year (padded 4 value ++ '-' :: rest) = .ok ((value : Int), '-' :: rest) := by
  have four : (padded 4 value).length = 4 := length_padded (by decide) (by omega)
  have read : number 4 (padded 4 value ++ '-' :: rest) = .ok (value, '-' :: rest) :=
    number_append (Nat.le_of_eq four) (.inl four)
  obtain ⟨first, others, spelled⟩ := List.exists_cons_of_ne_nil (padded_ne_nil 4 value)
  have digit : first.isDigit = true :=
    isDigit_of_mem_padded (by rw [spelled]; exact List.mem_cons_self)
  rw [year, dropBlanks_padded]
  rw [spelled, List.cons_append] at read ⊢
  split
  · rename_i minus
    rw [(List.cons.inj minus).1] at digit
    exact absurd digit (by decide)
  · rename_i plus
    rw [(List.cons.inj plus).1] at digit
    exact absurd digit (by decide)
  · rw [read]

theorem number_signed (value : Nat) :
    number (padded 4 value ++ '-' :: rest).length (padded 4 value ++ '-' :: rest) =
      .ok (value, '-' :: rest) :=
  number_append (by simp) (.inr (endsNumber_cons rest (by decide)))

theorem year_append {value : Int} (inRange : Date.inRange value = true) :
    year (yearText value ++ '-' :: rest) = .ok (value, '-' :: rest) := by
  rw [Date.inRange, Bool.and_eq_true, decide_eq_true_eq, decide_eq_true_eq] at inRange
  have bounds : -262143 ≤ value ∧ value ≤ 262142 := inRange
  have limit : Nat.pow 2 31 = 2147483648 := by decide
  rw [yearText]
  split
  · rename_i short
    have whole : ((value.toNat : Nat) : Int) = value := Int.toNat_of_nonneg short.1
    rw [year_unsigned rest (by omega), whole]
  · split
    · have whole : -((value.natAbs : Nat) : Int) = value := by omega
      rw [List.cons_append, year, Text.dropBlanks_cons_letter (by decide)]
      simp only [number_signed]
      rw [if_pos (by omega), whole]
    · have whole : ((value.natAbs : Nat) : Int) = value := by omega
      rw [List.cons_append, year, Text.dropBlanks_cons_letter (by decide)]
      simp only [number_signed]
      rw [if_pos (by omega), whole]

theorem fraction_point {width value : Nat} (positive : 0 < width) (atMost : width ≤ 9)
    (fits : value < 10 ^ width) (ends : EndsNumber rest) :
    fraction ('.' :: (padded width value ++ rest)) =
      .ok (value * Nat.pow 10 (9 - width), rest) := by
  have size : (padded width value).length = width := length_padded positive fits
  have after : rest.dropWhile Char.isDigit = rest := by
    cases rest with
    | nil => rfl
    | cons c others => exact List.dropWhile_cons_of_neg (by simp [ends c rfl])
  rw [fraction, number_append (by omega) (.inr ends)]
  simp only [List.length_append, size, Nat.add_sub_cancel, after]

theorem fraction_append {nanos : Nat} (below : nanos < nanosPerSecond) (ends : EndsNumber rest)
    (noPoint : rest.head? ≠ some '.') :
    fraction (fractionText nanos ++ rest) = .ok (nanos, rest) := by
  rw [nanosPerSecond] at below
  rw [fractionText]
  split
  · rename_i zero
    rw [List.nil_append, fraction.eq_def]
    split
    · exact absurd rfl noPoint
    · rw [zero]
  · split
    · rename_i thousandths
      rw [List.cons_append, fraction_point rest (by decide) (by decide) (by omega) ends]
      change Except.ok (nanos / 1000000 * 1000000, rest) = _
      rw [Nat.div_mul_cancel (Nat.dvd_of_mod_eq_zero thousandths)]
    · split
      · rename_i millionths
        rw [List.cons_append, fraction_point rest (by decide) (by decide) (by omega) ends]
        change Except.ok (nanos / 1000 * 1000, rest) = _
        rw [Nat.div_mul_cancel (Nat.dvd_of_mod_eq_zero millionths)]
      · rw [List.cons_append, fraction_point rest (by decide) (by decide) (by omega) ends]
        change Except.ok (nanos * 1, rest) = _
        rw [Nat.mul_one]

end Parts

section Moment

variable {time : Timestamp}

theorem monthLength_le (year : Int) (month : Nat) : Date.monthLength year month ≤ 31 := by
  unfold Date.monthLength
  split <;> try split
  all_goals omega

namespace Proper

theorem calendar (proper : time.Proper) :
    Date.inRange time.date.year = true ∧ 1 ≤ time.date.month ∧ time.date.month ≤ 12 ∧
      1 ≤ time.date.day ∧ time.date.day ≤ 31 := by
  have found : Date.ofParts? time.date.year time.date.month time.date.day ≠ none := by
    rw [proper.date]
    exact Option.some_ne_none time.date
  unfold Date.ofParts? at found
  split at found
  · rename_i valid
    simp only [Bool.and_eq_true, decide_eq_true_eq] at valid
    obtain ⟨⟨⟨⟨inRange, someMonth⟩, lastMonth⟩, someDay⟩, lastDay⟩ := valid
    exact ⟨inRange, someMonth, lastMonth, someDay,
      Nat.le_trans lastDay (monthLength_le time.date.year time.date.month)⟩
  · exact absurd rfl found

end Proper

/-- What the text of a moment says, part by part. A leap second is the sixtieth. -/
def parts (time : Timestamp) : Reading where
  year := time.date.year
  month := time.date.month
  day := time.date.day
  hour := time.second / 3600
  minute := time.second / 60 % 60
  second := time.second % 60 + (if nanosPerSecond ≤ time.nanos then 1 else 0)
  nanos := if nanosPerSecond ≤ time.nanos then time.nanos - nanosPerSecond else time.nanos
  offset := 0

theorem Proper.clock (proper : time.Proper) :
    time.parts.hour ≤ 23 ∧ time.parts.minute ≤ 59 ∧ time.parts.second ≤ 60 ∧
      time.parts.nanos < nanosPerSecond := by
  have ofDay : time.second < 86400 := proper.second
  have twice : time.nanos < 2 * nanosPerSecond := proper.nanos
  simp only [parts]
  split <;> omega

theorem localText_eq (time : Timestamp) (rest : List Char) :
    time.localText ++ rest = yearText time.parts.year ++ '-' :: (padded 2 time.parts.month ++
      '-' :: (padded 2 time.parts.day ++ 'T' :: (padded 2 time.parts.hour ++
      ':' :: (padded 2 time.parts.minute ++ ':' :: (padded 2 time.parts.second ++
      (fractionText time.parts.nanos ++ rest)))))) := by
  simp only [localText, parts, List.append_assoc, List.cons_append]

theorem reading_localText (proper : time.Proper) {rest : List Char} (ends : EndsNumber rest)
    (noPoint : rest.head? ≠ some '.') (universal : offset (Text.dropBlanks rest) = .ok (0, [])) :
    reading (time.localText ++ rest) = .ok (time.parts, []) := by
  obtain ⟨inRange, someMonth, lastMonth, someDay, lastDay⟩ := proper.calendar
  obtain ⟨ofHour, ofMinute, ofSecond, ofNanos⟩ := proper.clock
  have hyphen : Text.isBlank '-' = false := by decide
  have colon : Text.isBlank ':' = false := by decide
  have separated (rest : List Char) : separator ('T' :: rest) = .ok rest := rfl
  have year (rest : List Char) := @year_append rest time.parts.year inRange
  have month (rest : List Char) :=
    @bounded_append rest 1 12 time.parts.month someMonth lastMonth (by decide)
  have day (rest : List Char) :=
    @bounded_append rest 1 31 time.parts.day someDay lastDay (by decide)
  have hour (rest : List Char) := bounded_append rest (Nat.zero_le _) ofHour (by decide)
  have minute (rest : List Char) := bounded_append rest (Nat.zero_le _) ofMinute (by decide)
  have second (rest : List Char) := bounded_append rest (Nat.zero_le _) ofSecond (by decide)
  have nanos := fraction_append rest ofNanos ends noPoint
  rw [localText_eq, reading]
  simp only [bind, Except.bind, pure, Except.pure, year, mark_cons _ hyphen, mark_cons _ colon,
    month, day, separated, hour, minute, second, nanos, universal]
  rfl

theorem toUniversal_zero {date : Date} {second nanos : Nat} (ofDay : second < secondsPerDay) :
    toUniversal date second nanos 0 = some ⟨date, second, nanos⟩ := by
  have early : ¬ (second : Int) < 0 := by omega
  have late : (second : Int) < (secondsPerDay : Nat) := by omega
  simp only [toUniversal, Int.sub_zero]
  rw [if_neg early, if_pos late, Int.toNat_natCast]

theorem parts_leap (leap : nanosPerSecond ≤ time.nanos) :
    time.parts.second = time.second % 60 + 1 ∧ time.parts.nanos = time.nanos - nanosPerSecond := by
  simp only [parts, if_pos leap, and_self]

theorem parts_steady (steady : ¬ nanosPerSecond ≤ time.nanos) :
    time.parts.second = time.second % 60 ∧ time.parts.nanos = time.nanos := by
  simp only [parts, if_neg steady, Nat.add_zero, and_self]

theorem ofReading_parts (proper : time.Proper) : ofReading time.parts = .ok time := by
  have hour : time.parts.hour = time.second / 3600 := rfl
  have minute : time.parts.minute = time.second / 60 % 60 := rfl
  have whole : time.parts.hour * 3600 + time.parts.minute * 60 + min time.parts.second 59 =
        time.second ∧
      time.parts.nanos + (if time.parts.second = 60 then nanosPerSecond else 0) = time.nanos := by
    by_cases leap : nanosPerSecond ≤ time.nanos
    · have last : time.second % 60 = 59 := proper.leap leap
      obtain ⟨second, nanos⟩ := parts_leap leap
      rw [second, last, if_pos rfl, nanos]
      omega
    · obtain ⟨second, nanos⟩ := parts_steady leap
      rw [if_neg (by omega), second, nanos]
      omega
  have universal : toUniversal time.date time.second time.nanos time.parts.offset = some time :=
    toUniversal_zero proper.second
  have date : Date.ofParts? time.parts.year time.parts.month time.parts.day = some time.date :=
    proper.date
  rw [ofReading]
  simp only [date, whole, universal]
  rfl

theorem ofText_text (proper : time.Proper) : ofText time.text = .ok time := by
  have read : reading (time.localText ++ ['Z']) = .ok (time.parts, []) :=
    reading_localText proper (endsNumber_cons [] (by decide)) (by decide) rfl
  rw [ofText, text, String.toList_ofList, read]
  exact ofReading_parts proper

theorem ofText_offsetText (proper : time.Proper) : ofText time.offsetText = .ok time := by
  have read : reading (time.localText ++ ['+', '0', '0', ':', '0', '0']) = .ok (time.parts, []) :=
    reading_localText proper (endsNumber_cons _ (by decide)) (by decide) rfl
  rw [ofText, offsetText, String.toList_ofList, read]
  exact ofReading_parts proper

end Moment

theorem offsetText_inj {left right : Timestamp} (leftProper : left.Proper)
    (rightProper : right.Proper) : left.offsetText = right.offsetText ↔ left = right := by
  refine ⟨fun same => ?_, congrArg offsetText⟩
  have read : (.ok left : Except TimeFault Timestamp) = .ok right := by
    rw [← ofText_offsetText leftProper, same, ofText_offsetText rightProper]
  exact Except.ok.inj read

end Compliance.Timestamp
