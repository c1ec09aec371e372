import Compliance.Number.Decimal
import Compliance.Time.Date

/-!
Points in universal time to the nanosecond, their order and their text. A leap second is kept as
the nanoseconds from one thousand million on of the second before it.
-/

namespace Compliance

structure Timestamp where
  date : Date
  second : Nat
  nanos : Nat
deriving DecidableEq, Repr

namespace Timestamp

def nanosPerSecond : Nat := 1000000000

def secondsPerDay : Nat := 86400

def epoch : Timestamp := ⟨⟨1970, 1, 1⟩, 0, 0⟩

def ofNanos (nanos : Nat) : Timestamp :=
  let seconds := nanos / nanosPerSecond
  ⟨epoch.date.later (seconds / secondsPerDay), seconds % secondsPerDay, nanos % nanosPerSecond⟩

def isBefore (left right : Timestamp) : Bool :=
  left.date.isBefore right.date || (left.date == right.date &&
    (left.second < right.second || (left.second == right.second && left.nanos < right.nanos)))

def padded (width value : Nat) : List Char :=
  let digits := Decimal.digits value
  zeros (width - digits.length) ++ digits

def yearText (year : Int) : List Char :=
  if 0 ≤ year ∧ year ≤ 9999 then padded 4 year.toNat
  else (if year < 0 then '-' else '+') :: padded 4 year.natAbs

def fractionText (nanos : Nat) : List Char :=
  if nanos = 0 then []
  else if nanos % 1000000 = 0 then '.' :: padded 3 (nanos / 1000000)
  else if nanos % 1000 = 0 then '.' :: padded 6 (nanos / 1000)
  else '.' :: padded 9 nanos

def localText (time : Timestamp) : List Char :=
  let isLeap := nanosPerSecond ≤ time.nanos
  let second := time.second % 60 + (if isLeap then 1 else 0)
  let nanos := if isLeap then time.nanos - nanosPerSecond else time.nanos
  yearText time.date.year ++ '-' :: padded 2 time.date.month ++ '-' :: padded 2 time.date.day ++
    'T' :: padded 2 (time.second / 3600) ++ ':' :: padded 2 (time.second / 60 % 60) ++
    ':' :: padded 2 second ++ fractionText nanos

def text (time : Timestamp) : String :=
  String.ofList (time.localText ++ ['Z'])

def offsetText (time : Timestamp) : String :=
  String.ofList (time.localText ++ ['+', '0', '0', ':', '0', '0'])

end Timestamp

end Compliance
