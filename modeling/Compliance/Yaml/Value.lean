import Compliance.Json.Basic
import Compliance.Number.Decimal
import Compliance.Yaml.Node

/-!
The values of nodes. An untagged plain scalar is null, a truth value or a number if it is spelled
like one, and any other scalar is text. A core tag demands its type, and a tag of one's own has no
value.
-/

namespace Compliance.Yaml

namespace Plain

def nullSpellings : List String := ["null", "Null", "NULL", "~"]

def isNull (text : String) : Bool := nullSpellings.contains text

def bool? (text : String) : Option Bool :=
  [("true", true), ("True", true), ("TRUE", true),
    ("false", false), ("False", false), ("FALSE", false)].lookup text

def digitIn? (radix : Nat) (c : Char) : Option Nat :=
  (Quoted.hexDigit? c).filter (· < radix)

def natural? (radix : Nat) (digits : List Char) : Option Nat :=
  if digits.isEmpty then none
  else digits.foldlM (fun value c => (digitIn? radix c).map (radix * value + ·)) 0

def marked? : List Char → Option Nat
  | '0' :: 'x' :: digits => natural? 16 digits
  | '0' :: 'o' :: digits => natural? 8 digits
  | '0' :: 'b' :: digits => natural? 2 digits
  | _ => none

def unsigned : List Char → List Char
  | '+' :: rest | '-' :: rest => rest
  | text => text

def isPaddedWithZero (text : List Char) : Bool :=
  match unsigned text with
  | '0' :: c :: rest => (c :: rest).all Char.isDigit
  | _ => false

def magnitude? (text : List Char) : Option Nat :=
  (marked? text).or (if isPaddedWithZero text then none else natural? 10 text)

def integer? : List Char → Option Int
  | '+' :: rest => (magnitude? rest).map Int.ofNat
  | '-' :: rest => (magnitude? rest).map fun value => -(value : Int)
  | text => (magnitude? text).map Int.ofNat

def exponent? : List Char → Option Int
  | [] => some 0
  | letter :: rest =>
      if letter == 'e' || letter == 'E' then
        match rest with
        | '-' :: digits => (natural? 10 digits).map fun value => -(value : Int)
        | '+' :: digits => (natural? 10 digits).map Int.ofNat
        | digits => (natural? 10 digits).map Int.ofNat
      else none

def decimal? (text : List Char) : Option Decimal := do
  let (whole, rest) := (text.takeWhile Char.isDigit, text.dropWhile Char.isDigit)
  let (places, rest) := match rest with
    | '.' :: after => (after.takeWhile Char.isDigit, after.dropWhile Char.isDigit)
    | _ => ([], rest)
  let coefficient ← natural? 10 (whole ++ places)
  let exponent ← exponent? rest
  return { coefficient, scale := exponent - places.length }

def magnitudeFloat? (text : List Char) : Option Float :=
  if [".inf", ".Inf", ".INF"].contains (String.ofList text) then some (1.0 / 0.0)
  else
    match decimal? text with
    | none => none
    | some decimal =>
        let value := decimal.toFloat
        if value.isInf then none else some value

/-- A floating point number; one that is too great to be finite is none. -/
def float? (text : List Char) : Option Float :=
  if [".nan", ".NaN", ".NAN"].contains (String.ofList text) then some (0.0 / 0.0)
  else
    match text with
    | '+' :: rest => magnitudeFloat? rest
    | '-' :: rest => (magnitudeFloat? rest).map fun value => -value
    | _ => magnitudeFloat? text

end Plain

def integerValue? (text : String) : Option (Except Fault Json) :=
  match Plain.integer? text.toList with
  | none => none
  | some value =>
      if -(Nat.pow 2 63 : Int) ≤ value ∧ value < wordCount then some (.ok (.integer value))
      else if -(Nat.pow 2 127 : Int) ≤ value ∧ value < Nat.pow 2 128 then
        some (.error .wrongValue)
      else none

def plainValue (text : String) : Except Fault Json :=
  if text.isEmpty || Plain.isNull text then .ok .null
  else
    match Plain.bool? text, integerValue? text with
    | some value, _ => .ok (.bool value)
    | none, some value => value
    | none, none =>
        if Plain.isPaddedWithZero text.toList then .ok (.string text)
        else .ok (((Plain.float? text.toList).map Json.ofFloat).getD (.string text))

inductive CoreTag where
  | null
  | bool
  | int
  | float
deriving DecidableEq, Repr

def CoreTag.name : CoreTag → List Char
  | null => "tag:yaml.org,2002:null".toList
  | bool => "tag:yaml.org,2002:bool".toList
  | int => "tag:yaml.org,2002:int".toList
  | float => "tag:yaml.org,2002:float".toList

def coreTag? (tag : List Char) : Option CoreTag :=
  [CoreTag.null, .bool, .int, .float].find? fun core => core.name == tag

def taggedValue (text : String) : CoreTag → Except Fault Json
  | .null => if Plain.isNull text then .ok .null else .error .wrongValue
  | .bool => (Plain.bool? text).elim (.error .wrongValue) fun value => .ok (.bool value)
  | .int => (integerValue? text).getD (.error .wrongValue)
  | .float =>
      (Plain.float? text.toList).elim (.error .wrongValue) fun value => .ok (Json.ofFloat value)

def isOwnTag (tag : List Char) : Bool := tag.head? == some '!'

def scalarValue (text : String) (style : ScalarStyle) : Option (List Char) → Except Fault Json
  | none => if style = .plain then plainValue text else .ok (.string text)
  | some tag =>
      if isOwnTag tag then .error .wrongValue
      else
        match coreTag? tag with
        | some core => taggedValue text core
        | none => .ok (.string text)

def hasOwnTag (tag : Option (List Char)) : Bool := tag.any isOwnTag

abbrev Following := StateT Nat (Except Fault)

namespace Tree

def follow (tree : Tree) (number : Nat) : Following Node := do
  let count ← get
  if tree.root.events * 100 < count + 1 then throw .repeatedTooOften
  set (count + 1)
  return tree.resolve (.reference number)

def keyText (tree : Tree) : Node → Following String
  | .scalar text _ _ _ => return text
  | .reference number => do
      match ← tree.follow number with
      | .scalar text _ _ _ => return text
      | _ => throw .wrongValue
  | _ => throw .wrongValue

def value (tree : Tree) : (fuel : Nat) → (depth : Nat) → Node → Following Json
  | 0, _, _ => throw .nestedTooDeep
  | fuel + 1, depth, node =>
      match node with
      | .scalar text style tag _ => scalarValue text style tag
      | .reference number => do tree.value fuel depth (← tree.follow number)
      | .sequence items tag _ =>
          if hasOwnTag tag then throw .wrongValue
          else
            match depth with
            | 0 => throw .nestedTooDeep
            | inner + 1 => return .array (← items.mapM (tree.value fuel inner))
      | .mapping entries tag _ =>
          if hasOwnTag tag then throw .wrongValue
          else
            match depth with
            | 0 => throw .nestedTooDeep
            | inner + 1 => do
                let members ← entries.mapM fun (key, held) => do
                  return (← tree.keyText key, ← tree.value fuel inner held)
                return .object (Keyed.ofList members)

end Tree

def nestingLimit : Nat := 128

/-- Reads a text as one value; a text without a document is null. Below each list or object there
is at most one alias, so twice the nesting limit bounds the way down. -/
def valueOfText (text : String) : Except Fault Json := do
  match ← Tree.ofText? text with
  | none => return .null
  | some tree =>
      let (value, _) ← (tree.value (2 * nestingLimit + 2) nestingLimit tree.root).run 0
      return value

end Compliance.Yaml
