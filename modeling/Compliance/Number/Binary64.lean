/-!
Binary floating point values of 64 bits as exact numbers: a finite one is `mantissa` times two to
the power `exponent - 1074`. The other way round, `nearest` gives the value closest to a ratio,
the one with the even mantissa when two are equally close.
-/

namespace Compliance

def wordCount : Nat := Nat.pow 2 64

structure Binary64 where
  negative : Bool
  mantissa : Nat
  exponent : Nat
deriving DecidableEq, Repr

namespace Binary64

def fractionBits (bits : Nat) : Nat := bits % Nat.pow 2 52

def exponentBits (bits : Nat) : Nat := bits / Nat.pow 2 52 % Nat.pow 2 11

def signBit (bits : Nat) : Bool := bits / Nat.pow 2 63 % 2 == 1

def ofBits? (bits : Nat) : Option Binary64 :=
  if exponentBits bits = 2047 then none
  else if exponentBits bits = 0 then some ⟨signBit bits, fractionBits bits, 0⟩
  else some ⟨signBit bits, fractionBits bits + Nat.pow 2 52, exponentBits bits - 1⟩

def ofFloat? (value : Float) : Option Binary64 :=
  ofBits? value.toBits.toNat

def ratio (value : Binary64) : Nat × Nat :=
  (value.mantissa * Nat.pow 2 value.exponent, Nat.pow 2 1074)

/-- A quotient rounded to a whole number; a tie goes to the even neighbour. -/
def roundQuotient (numerator denominator : Nat) : Nat :=
  let quotient := numerator / denominator
  let rest := numerator % denominator
  if 2 * rest < denominator then quotient
  else if denominator < 2 * rest then quotient + 1
  else quotient + quotient % 2

def bitsOfRounded (mantissa exponent : Nat) : Nat :=
  if mantissa < Nat.pow 2 52 then mantissa
  else if 2046 ≤ exponent + mantissa / Nat.pow 2 53 then 2047 * Nat.pow 2 52
  else mantissa - Nat.pow 2 52 + (exponent + 1) * Nat.pow 2 52

def exponentOf (numerator denominator : Nat) : Nat :=
  let scaled := numerator * Nat.pow 2 1074 / denominator
  scaled.log2 - 52

/-- The bits of the value nearest to the ratio; from half a step above the greatest finite value
on they are those of infinity. -/
def nearestBits (numerator denominator : Nat) : Nat :=
  let exponent := exponentOf numerator denominator
  bitsOfRounded
    (roundQuotient (numerator * Nat.pow 2 1074) (denominator * Nat.pow 2 exponent)) exponent

def nearest (numerator denominator : Nat) : Float :=
  Float.ofBits (nearestBits numerator denominator).toUInt64

end Binary64

end Compliance
