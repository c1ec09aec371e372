import Compliance.Decode
import Compliance.Text.Blank
import Compliance.Time.Timestamp

/-!
Reading points in time: date, time of day and offset, with blanks allowed before each number and
before each mark between numbers. The result is in universal time.
-/

namespace Compliance

inductive TimeFault where
  | wrongCharacter
  | endsEarly
  | outOfRange
  | trailing
  | impossible
deriving DecidableEq, Repr

def TimeFault.message : TimeFault → String
  | wrongCharacter => "input contains invalid characters"
  | endsEarly => "premature end of input"
  | outOfRange => "input is out of range"
  | trailing => "trailing input"
  | impossible => "no possible date and time matching input"

namespace Timestamp

abbrev Part (α : Type) := Except TimeFault (α × List Char)

def numberOf (digits : List Char) : Nat :=
  digits.foldl (fun number c => 10 * number + (c.toNat - '0'.toNat)) 0

def number (width : Nat) (text : List Char) : Part Nat :=
  match text, (text.take width).takeWhile Char.isDigit with
  | [], _ => .error .endsEarly
  | _ :: _, [] => .error .wrongCharacter
  | text, digits => .ok (numberOf digits, text.drop digits.length)

def bounded (least greatest : Nat) (text : List Char) : Part Nat :=
  match number 2 (Text.dropBlanks text) with
  | .error fault => .error fault
  | .ok (value, rest) =>
      if least ≤ value ∧ value ≤ greatest then .ok (value, rest) else .error .outOfRange

/-- With a sign a year may have any number of digits, and without one it has at most four. -/
def year (text : List Char) : Part Int :=
  match Text.dropBlanks text with
  | '-' :: rest =>
      match number rest.length rest with
      | .error fault => .error fault
      | .ok (value, after) =>
          if value ≤ Nat.pow 2 31 then .ok (-(value : Int), after) else .error .outOfRange
  | '+' :: rest =>
      match number rest.length rest with
      | .error fault => .error fault
      | .ok (value, after) =>
          if value < Nat.pow 2 31 then .ok (value, after) else .error .outOfRange
  | unsigned =>
      match number 4 unsigned with
      | .error fault => .error fault
      | .ok (value, after) => .ok (value, after)

def mark (wanted : Char) (text : List Char) : Except TimeFault (List Char) :=
  match Text.dropBlanks text with
  | [] => .error .endsEarly
  | c :: rest => if c = wanted then .ok rest else .error .wrongCharacter

/-- Nanoseconds after a point; digits beyond the ninth are passed over. -/
def fraction : List Char → Part Nat
  | '.' :: text =>
      match number 9 text with
      | .error fault => .error fault
      | .ok (value, rest) =>
          let used := text.length - rest.length
          .ok (value * Nat.pow 10 (9 - used), rest.dropWhile Char.isDigit)
  | text => .ok (0, text)

def twoDigits (text : List Char) : Part Nat :=
  match text with
  | first :: second :: rest =>
      if first.isDigit && second.isDigit then .ok (numberOf [first, second], rest)
      else .error .wrongCharacter
  | [] => .error .endsEarly
  | [only] => .error (if only.utf8Size = 1 then .endsEarly else .wrongCharacter)

def isUniversal : List Char → Bool
  | first :: second :: third :: _ =>
      first.toUpper == 'U' && second.toUpper == 'T' && third.toUpper == 'C'
  | _ => false

/-- Hours and minutes of an offset, in seconds. Colons and blanks may stand between them. -/
def offsetSeconds (text : List Char) : Part Nat :=
  match twoDigits text with
  | .error fault => .error fault
  | .ok (hours, rest) =>
      match twoDigits (rest.dropWhile fun c => c == ':' || Text.isBlank c) with
      | .error fault => .error fault
      | .ok (minutes, after) =>
          if minutes < 60 then .ok (hours * 3600 + minutes * 60, after) else .error .outOfRange

def offset (text : List Char) : Part Int :=
  if isUniversal text then .ok (0, text.drop 3)
  else
    match text with
    | [] => .error .endsEarly
    | c :: rest =>
        if c == 'Z' || c == 'z' then .ok (0, rest)
        else if c == '+' then (offsetSeconds rest).map fun (seconds, after) => (↑seconds, after)
        else if c == '-' || c == '\u2212' then
          (offsetSeconds rest).map fun (seconds, after) => (-↑seconds, after)
        else .error .wrongCharacter

structure Reading where
  year : Int
  month : Nat
  day : Nat
  hour : Nat
  minute : Nat
  second : Nat
  nanos : Nat
  offset : Int

def separator : List Char → Except TimeFault (List Char)
  | [] => .error .endsEarly
  | c :: rest => if c == 't' || c == 'T' || c == ' ' then .ok rest else .error .wrongCharacter

def reading (text : List Char) : Except TimeFault (Reading × List Char) := do
  let (year, text) ← year text
  let text ← mark '-' text
  let (month, text) ← bounded 1 12 text
  let text ← mark '-' text
  let (day, text) ← bounded 1 31 text
  let text ← separator text
  let (hour, text) ← bounded 0 23 text
  let text ← mark ':' text
  let (minute, text) ← bounded 0 59 text
  let text ← mark ':' text
  let (second, text) ← bounded 0 60 text
  let (nanos, text) ← fraction text
  let (offset, text) ← offset (Text.dropBlanks text)
  return ({ year, month, day, hour, minute, second, nanos, offset }, text)

def toUniversal (date : Date) (second nanos : Nat) (offset : Int) : Option Timestamp :=
  let shifted := (second : Int) - offset
  if shifted < 0 then
    date.previous?.map fun before => ⟨before, (shifted + secondsPerDay).toNat, nanos⟩
  else if shifted < secondsPerDay then some ⟨date, shifted.toNat, nanos⟩
  else date.next?.map fun after => ⟨after, (shifted - secondsPerDay).toNat, nanos⟩

/-- A sixtieth second continues the one before it. -/
def ofReading (read : Reading) : Except TimeFault Timestamp :=
  match Date.ofParts? read.year read.month read.day with
  | none => .error .outOfRange
  | some date =>
      let second := read.hour * 3600 + read.minute * 60 + min read.second 59
      let nanos := read.nanos + (if read.second = 60 then nanosPerSecond else 0)
      if read.offset.natAbs < secondsPerDay then
        match toUniversal date second nanos read.offset with
        | some time => .ok time
        | none => .error .impossible
      else .error .outOfRange

def ofText (text : String) : Except TimeFault Timestamp :=
  match reading text.toList with
  | .error fault => .error fault
  | .ok (read, []) => ofReading read
  | .ok (_, _ :: _) => .error .trailing

def toJson (time : Timestamp) : Json := .string time.text

def decode : Decoder Timestamp
  | _, .string text => (ofText text).mapError fun fault => .refused fault.message
  | _, other => .error (.wrongType other "an RFC 3339 formatted date and time string")

end Timestamp

end Compliance
