/-!
Days of the Gregorian calendar, extended to all years, within the range of years that is kept.
-/

namespace Compliance

structure Date where
  year : Int
  month : Nat
  day : Nat
deriving DecidableEq, Repr

namespace Date

def leastYear : Int := -262143

def greatestYear : Int := 262142

def isLeap (year : Int) : Bool :=
  year % 4 == 0 && (year % 100 != 0 || year % 400 == 0)

def monthLength (year : Int) : Nat → Nat
  | 2 => if isLeap year then 29 else 28
  | 4 | 6 | 9 | 11 => 30
  | _ => 31

def inRange (year : Int) : Bool :=
  leastYear ≤ year && year ≤ greatestYear

def ofParts? (year : Int) (month day : Nat) : Option Date :=
  if inRange year && 1 ≤ month && month ≤ 12 && 1 ≤ day && day ≤ monthLength year month
  then some ⟨year, month, day⟩
  else none

def next? (date : Date) : Option Date :=
  if date.day < monthLength date.year date.month then some { date with day := date.day + 1 }
  else if date.month < 12 then some ⟨date.year, date.month + 1, 1⟩
  else ofParts? (date.year + 1) 1 1

/-- The day so many days later; the last day of the range has none after it. -/
def later (date : Date) : (days : Nat) → Date
  | 0 => date
  | days + 1 => (date.next?.getD date).later days

def previous? (date : Date) : Option Date :=
  if 1 < date.day then some { date with day := date.day - 1 }
  else if 1 < date.month then
    some ⟨date.year, date.month - 1, monthLength date.year (date.month - 1)⟩
  else ofParts? (date.year - 1) 12 31

def isBefore (left right : Date) : Bool :=
  left.year < right.year || (left.year == right.year &&
    (left.month < right.month || (left.month == right.month && left.day < right.day)))

end Date

end Compliance
