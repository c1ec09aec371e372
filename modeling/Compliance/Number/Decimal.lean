import Compliance.Number.Binary64

/-!
Decimal texts of floating point values. `shortest` finds the fewest digits that read back as the
same value; `fixed` writes a given number of places, rounding the exact value with ties to even.
-/

namespace Compliance

/-- The digits `coefficient`, the last of them in the place of ten to the power `scale`. -/
structure Decimal where
  coefficient : Nat
  scale : Int
deriving DecidableEq, Repr

namespace Decimal

def digits (value : Nat) : List Char := Nat.toDigits 10 value

def leading (value : Decimal) : Int :=
  value.scale + ((digits value.coefficient).length - 1 : Nat)

/-- Whether `coefficient` tens to the power `scale` is less than the ratio. -/
def belowRatio (coefficient : Nat) (scale : Int) (numerator denominator : Nat) : Bool :=
  match scale with
  | .ofNat power => coefficient * Nat.pow 10 power * denominator < numerator
  | .negSucc power => coefficient * denominator < numerator * Nat.pow 10 (power + 1)

def equalsRatio (coefficient : Nat) (scale : Int) (numerator denominator : Nat) : Bool :=
  match scale with
  | .ofNat power => coefficient * Nat.pow 10 power * denominator == numerator
  | .negSucc power => coefficient * denominator == numerator * Nat.pow 10 (power + 1)

/-- The interval of the numbers that read as one value: its middle and its ends over a common
denominator, and whether the ends belong to it. -/
structure Interval where
  low : Nat
  middle : Nat
  high : Nat
  denominator : Nat
  closed : Bool

/-- The distance to the value below is halved where the exponent steps down. -/
def Interval.around (value : Binary64) : Interval where
  low := (4 * value.mantissa -
    (if value.mantissa = Nat.pow 2 52 ∧ 0 < value.exponent then 1 else 2)) *
      Nat.pow 2 value.exponent
  middle := 4 * value.mantissa * Nat.pow 2 value.exponent
  high := (4 * value.mantissa + 2) * Nat.pow 2 value.exponent
  denominator := 4 * Nat.pow 2 1074
  closed := value.mantissa % 2 == 0

def Interval.covers (interval : Interval) (coefficient : Nat) (scale : Int) : Bool :=
  let low := interval.low
  let high := interval.high
  let common := interval.denominator
  (!belowRatio coefficient scale low common && !equalsRatio coefficient scale low common &&
      belowRatio coefficient scale high common) ||
    interval.closed && (equalsRatio coefficient scale low common ||
      equalsRatio coefficient scale high common)

def Interval.floor (interval : Interval) (scale : Int) : Nat :=
  match scale with
  | .ofNat power => interval.middle / (interval.denominator * Nat.pow 10 power)
  | .negSucc power => interval.middle * Nat.pow 10 (power + 1) / interval.denominator

def Interval.prefersAbove (interval : Interval) (below : Nat) (scale : Int) : Bool :=
  let halfway := (2 * below + 1) * interval.denominator
  match scale with
  | .ofNat power => decides (halfway * Nat.pow 10 power) (2 * interval.middle)
  | .negSucc power => decides halfway (2 * interval.middle * Nat.pow 10 (power + 1))
where
  decides (halfway doubled : Nat) : Bool :=
    halfway < doubled || (halfway == doubled && below % 2 == 1)

def Interval.point? (interval : Interval) (scale : Int) : Option Decimal :=
  let below := interval.floor scale
  let lower := interval.covers below scale
  let upper := interval.covers (below + 1) scale
  if lower && upper then
    some ⟨if interval.prefersAbove below scale then below + 1 else below, scale⟩
  else if lower then some ⟨below, scale⟩
  else if upper then some ⟨below + 1, scale⟩
  else none

def Interval.search (interval : Interval) : Nat → Int → Decimal
  | 0, scale => ⟨interval.floor scale, scale⟩
  | tries + 1, scale =>
      match interval.point? scale with
      | some found => found
      | none => interval.search tries (scale - 1)

def Interval.leading (interval : Interval) : Int :=
  ((digits (interval.middle * Nat.pow 10 400 / interval.denominator)).length : Int) - 401

/-- Fewest digits first; seventeen always suffice. The search starts one place above the leading
digit, since a power of ten may read as a value just below it. -/
def shortest (value : Binary64) : Decimal :=
  if value.mantissa = 0 then ⟨0, 0⟩
  else
    let interval := Interval.around value
    interval.search 18 (interval.leading + 1)

def toFloat (value : Decimal) : Float :=
  if value.coefficient = 0 ∨ value.leading < -400 then 0.0
  else if 400 < value.leading then Binary64.nearest (Nat.pow 10 400) 1
  else
    match value.scale with
    | .ofNat power => Binary64.nearest (value.coefficient * Nat.pow 10 power) 1
    | .negSucc power => Binary64.nearest value.coefficient (Nat.pow 10 (power + 1))

end Decimal

def zeros (count : Nat) : List Char := List.replicate count '0'

def pointed (coefficient places : Nat) : List Char :=
  let written := Decimal.digits coefficient
  let padded := zeros (places + 1 - written.length) ++ written
  let whole := padded.take (padded.length - places)
  if places = 0 then whole else whole ++ '.' :: padded.drop (padded.length - places)

/-- The exact value rounded to `places` places. The sign of zero is kept. -/
def Binary64.fixed (value : Binary64) (places : Nat) : String :=
  let ratio := value.ratio
  let rounded := Binary64.roundQuotient (ratio.1 * Nat.pow 10 places) ratio.2
  String.ofList ((if value.negative then ['-'] else []) ++ pointed rounded places)

def fixedPlaces (value : Float) (places : Nat) : String :=
  match Binary64.ofFloat? value with
  | some exact => exact.fixed places
  | none => if value.isNaN then "NaN" else if value < 0.0 then "-inf" else "inf"

end Compliance
