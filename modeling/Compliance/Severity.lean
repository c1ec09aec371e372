import Compliance.Decode
import Compliance.Text.Document

/-!
How grave a failure is, from `info` up to `critical`, and the names under which it is read.
-/

namespace Compliance

inductive Severity where
  | info
  | warning
  | high
  | critical
deriving DecidableEq, Repr

namespace Severity

def all : List Severity := [info, warning, high, critical]

def name : Severity → String
  | info => "info"
  | warning => "warning"
  | high => "high"
  | critical => "critical"

def rank : Severity → Nat
  | info => 0
  | warning => 1
  | high => 2
  | critical => 3

def usual : Severity := warning

def byName : List (String × Severity) :=
  all.map fun severity => (severity.name, severity)

/-- Blanks around the name and letter case do not matter. -/
def ofText? (text : String) : Option Severity :=
  byName.lookup (String.ofList (Text.lower (trim text).toList))

def ofText (text : String) : Except String Severity :=
  match ofText? text with
  | some severity => .ok severity
  | none => .error ("Unknown severity: " ++ text)

/-- The spellings in data: all capitals or all small letters. -/
def spellings : List (String × Severity) :=
  all.flatMap fun severity => [(severity.name.toUpper, severity), (severity.name, severity)]

def decode : Decoder Severity := Decode.variant spellings

def toJson (severity : Severity) : Json := .string severity.name

def sort (severities : List Severity) : List Severity :=
  severities.mergeSort fun left right => left.rank ≤ right.rank

end Severity

end Compliance
