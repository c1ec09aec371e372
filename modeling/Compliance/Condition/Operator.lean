import Compliance.Text.Blank

/-!
The logical operators of condition nodes and the spellings that name them.
-/

namespace Compliance

inductive Operator where
  | conjunction
  | disjunction
  | exclusion
  | implication
deriving DecidableEq, Repr

namespace Operator

def name : Operator → String
  | conjunction => "AND"
  | disjunction => "OR"
  | exclusion => "NOT"
  | implication => "IF-THEN"

/-- The capital of a letter if it is a letter of ASCII; the dotless i has one too. -/
def capital (c : Char) : Char :=
  if c = '\u0131' then 'I' else c.toUpper

def spelling (text : String) : List Char :=
  (trim text).toList.map fun c => if c = '_' then '-' else capital c

def spellings : List (List Char × Operator) :=
  [("AND".toList, conjunction), ("OR".toList, disjunction), ("NOT".toList, exclusion),
    ("IF-THEN".toList, implication), ("IFTHEN".toList, implication)]

def ofText? (text : String) : Option Operator :=
  spellings.lookup (spelling text)

def unsupported (spelling : String) : String :=
  "unsupported operator '" ++ spelling ++ "'"

def ofText (text : String) : Except String Operator :=
  match ofText? text with
  | some operator => .ok operator
  | none => .error (unsupported text)

end Operator

end Compliance
