import Compliance.Keyed

/-!
Loosely typed values: what rule definitions are written in. Whole numbers and floating point
numbers are kept apart. The members of an object are listed in the order in which they are
written; a value that was read has them in ascending order of their keys.
-/

namespace Compliance

inductive Json where
  | null
  | bool (value : Bool)
  | integer (value : Int)
  | float (value : Float)
  | string (text : String)
  | array (items : List Json)
  | object (members : List (String × Json))
deriving Inhabited

namespace Json

/-- Infinities and values that are no numbers are null. -/
def ofFloat (value : Float) : Json :=
  if value.isFinite then .float value else .null

def member? (key : String) : Json → Option Json
  | .object members => Keyed.get? key members
  | _ => none

def text? : Json → Option String
  | .string text => some text
  | _ => none

mutual

def sorted : Json → Json
  | .array items => .array (sortedItems items)
  | .object members => .object (Keyed.ofList (sortedMembers members))
  | other => other

def sortedItems : List Json → List Json
  | [] => []
  | item :: rest => item.sorted :: sortedItems rest

def sortedMembers : List (String × Json) → List (String × Json)
  | [] => []
  | (key, value) :: rest => (key, value.sorted) :: sortedMembers rest

end

mutual

/-- How deep the value is nested; nothing is nested in a plain one. -/
def height : Json → Nat
  | .array items => itemsHeight items + 1
  | .object members => membersHeight members + 1
  | _ => 0

def itemsHeight : List Json → Nat
  | [] => 0
  | item :: rest => max item.height (itemsHeight rest)

def membersHeight : List (String × Json) → Nat
  | [] => 0
  | (_, value) :: rest => max value.height (membersHeight rest)

end

end Json

end Compliance
