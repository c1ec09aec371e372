import Compliance.Number.Decimal

/-!
Numbers in JSON text. A floating point number is written with the fewest digits that read back:
positionally while its leading digit stands between the fifth decimal place and the sixteenth
place before the point, and with an exponent beyond that.
-/

namespace Compliance

/-- From which to which place of the leading digit a number is written without an exponent. -/
structure PositionalRange where
  least : Int
  greatest : Int

def jsonPositional : PositionalRange := ⟨-5, 15⟩

namespace Decimal

def scientific (value : Decimal) : List Char :=
  let written := digits value.coefficient
  let fraction := written.drop 1
  let exponent := value.leading
  written.take 1 ++ (if fraction.isEmpty then [] else '.' :: fraction) ++
    ['e', if exponent < 0 then '-' else '+'] ++ digits exponent.natAbs

def positional (value : Decimal) : List Char :=
  match value.scale with
  | .ofNat power => digits (value.coefficient * Nat.pow 10 power) ++ ['.', '0']
  | .negSucc power => pointed value.coefficient (power + 1)

def written (range : PositionalRange) (value : Decimal) : List Char :=
  if range.least ≤ value.leading ∧ value.leading ≤ range.greatest then value.positional
  else value.scientific

end Decimal

def floatText (value : Float) : String :=
  match Binary64.ofFloat? value with
  | none => "null"
  | some exact =>
      String.ofList ((if exact.negative then ['-'] else []) ++
        (Decimal.shortest exact).written jsonPositional)

end Compliance
