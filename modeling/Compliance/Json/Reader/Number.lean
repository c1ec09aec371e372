import Compliance.Json.Fault

/-!
Reading a JSON number. Up to 64 bits a whole number stays one; any other number is a significand
of at most 64 bits scaled by a power of ten in floating point arithmetic.
-/

namespace Compliance.Json

def digitValue (c : Char) : Nat := c.toNat - '0'.toNat

def gather (significand : Nat) : List Char → Nat × List Char
  | [] => (significand, [])
  | c :: rest =>
      let next := 10 * significand + digitValue c
      if next < wordCount then gather next rest else (significand, c :: rest)

def greatestExponent : Nat := Nat.pow 2 31 - 1

/-- Takes the digits of an exponent; when they get too large, the text after the digit that did. -/
def gatherExponent (exponent : Nat) : List Char → Except (List Char) Nat
  | [] => .ok exponent
  | c :: rest =>
      let next := 10 * exponent + digitValue c
      if next ≤ greatestExponent then gatherExponent next rest else .error rest

def tenTo (power : Nat) : Float := Binary64.nearest (Nat.pow 10 power) 1

def shrink (value : Float) (left : Nat) : Nat → Float
  | 0 => value / tenTo left
  | steps + 1 => if value == 0.0 then value else shrink (value / tenTo 308) left steps

/-- The significand times a power of ten in floating point arithmetic: one multiplication or
division as long as the power itself is a value. -/
def scaled (significand : Nat) (exponent : Int) : Option Float :=
  let value := Float.ofNat significand
  match exponent with
  | .ofNat power =>
      if 308 < power then (if significand = 0 then some value else none)
      else
        let product := value * tenTo power
        if product.isInf then none else some product
  | .negSucc power =>
      let steps := power / 308
      some (shrink value (power + 1 - 308 * steps) steps)

def signed (negative : Bool) (value : Float) : Json :=
  .float (if negative then -value else value)

def isDigit (c : Char) : Bool := '0' ≤ c && c ≤ '9'

def finish (negative : Bool) (significand : Nat) (exponent : Int) (text : List Char) :
    Reading Json :=
  match scaled significand exponent with
  | some value => .ok (signed negative value, text)
  | none => failAt .numberOutOfRange text

def exponentPart (negative : Bool) (significand : Nat) (start : Int) (text : List Char) :
    Reading Json :=
  let down := text.head? == some '-'
  let text := if down || text.head? == some '+' then text.drop 1 else text
  match text with
  | [] => failAt .endInValue []
  | c :: _ =>
      if !isDigit c then failOn .invalidNumber text
      else
        let rest := text.dropWhile isDigit
        match gatherExponent 0 (text.takeWhile isDigit) with
        | .ok exponent =>
            finish negative significand (if down then start - exponent else start + exponent) rest
        | .error left =>
            if significand ≠ 0 ∧ !down then failAt .numberOutOfRange (left ++ rest)
            else .ok (signed negative 0.0, rest)

def afterDigits (negative : Bool) (significand : Nat) (exponent : Int) (text : List Char) :
    Reading Json :=
  match text with
  | 'e' :: rest => exponentPart negative significand exponent rest
  | 'E' :: rest => exponentPart negative significand exponent rest
  | _ => finish negative significand exponent text

def fractionPart (negative : Bool) (significand : Nat) (exponent : Int) (text : List Char) :
    Reading Json :=
  let places := text.takeWhile isDigit
  let rest := text.dropWhile isDigit
  if places.isEmpty then
    match text with
    | [] => failAt .endInValue []
    | _ => failOn .invalidNumber text
  else
    let (gathered, dropped) := gather significand places
    afterDigits negative gathered (exponent - (places.length - dropped.length : Nat)) rest

/-- A whole number without sign fits in 64 bits; below zero it also has to fit in 63 bits and a
sign, and minus zero does not count as whole. -/
def wholeNumber (negative : Bool) (significand : Nat) : Json :=
  if !negative then .integer significand
  else if significand = 0 ∨ Nat.pow 2 63 < significand then signed true (Float.ofNat significand)
  else .integer (-significand)

def number (negative : Bool) (text : List Char) : Reading Json :=
  let written := text.takeWhile isDigit
  let rest := text.dropWhile isDigit
  match written with
  | [] =>
      match text with
      | [] => failAt .endInValue []
      | _ => failOn .invalidNumber text
  | '0' :: next :: more => failOn .invalidNumber (next :: more ++ rest)
  | _ =>
      let (significand, dropped) := gather 0 written
      match rest with
      | '.' :: after => fractionPart negative significand dropped.length after
      | 'e' :: _ => afterDigits negative significand dropped.length rest
      | 'E' :: _ => afterDigits negative significand dropped.length rest
      | _ =>
          if dropped.isEmpty then .ok (wholeNumber negative significand, rest)
          else finish negative significand dropped.length rest

end Compliance.Json
