import Compliance.Json.Printer
import Compliance.Json.Fault

/-!
Typed readings of loosely typed values. A record is read from an object by the names of its fields
or from a list by their order. Of the faults in an object the one at the least key is reported, and
a missing field only when no key is at fault.
-/

namespace Compliance

inductive DecodeError where
  | wrongType (found : Json) (wanted : String)
  | wrongValue (found : Json) (wanted : String)
  | wrongLength (length : Nat) (wanted : String)
  | missingField (name : String)
  | duplicateField (name : String)
  | unknownVariant (name : String) (known : List String)
  | noVariant (enumeration : String)
  | refused (reason : String)

namespace DecodeError

def inTicks (name : String) : String := "`" ++ name ++ "`"

def choice : List String → String
  | [first, second] => inTicks first ++ " or " ++ inTicks second
  | [only] => inTicks only
  | names => "one of " ++ ", ".intercalate (names.map inTicks)

def message : DecodeError → String
  | wrongType found wanted => "invalid type: " ++ found.described ++ ", expected " ++ wanted
  | wrongValue found wanted => "invalid value: " ++ found.described ++ ", expected " ++ wanted
  | wrongLength length wanted => "invalid length " ++ toString length ++ ", expected " ++ wanted
  | missingField name => "missing field " ++ inTicks name
  | duplicateField name => "duplicate field " ++ inTicks name
  | unknownVariant name known =>
      "unknown variant " ++ inTicks name ++ ", expected " ++ choice known
  | noVariant enumeration =>
      "data did not match any variant of untagged enum " ++ enumeration
  | refused reason => reason

end DecodeError

/-- Where a value stands. Below a tag that decides between variants, an empty object counts as
nothing, and a list that is too long is described by the number of elements it should have. -/
inductive Layer where
  | plain
  | tagged
deriving DecidableEq, Repr

abbrev Decoder (α : Type) := Layer → Json → Except DecodeError α

namespace Decode

def text : Decoder String
  | _, .string text => .ok text
  | _, other => .error (.wrongType other "a string")

def bool : Decoder Bool
  | _, .bool value => .ok value
  | _, other => .error (.wrongType other "a boolean")

def count : Decoder Nat
  | _, .integer (.ofNat value) =>
      if value < wordCount then .ok value else .error (.wrongValue (.integer value) "usize")
  | _, .integer value => .error (.wrongValue (.integer value) "usize")
  | _, other => .error (.wrongType other "usize")

def float : Decoder Float
  | _, .float value => .ok value
  | _, .integer value => .ok (Float.ofInt value)
  | _, other => .error (.wrongType other "f64")

def list {α : Type} (item : Decoder α) : Decoder (List α)
  | layer, .array items => items.mapM (item layer)
  | _, other => .error (.wrongType other "a sequence")

def option {α : Type} (some : Decoder α) : Decoder (Option α)
  | _, .null => .ok none
  | layer, other => (some layer other).map Option.some

/-- One of several names, possibly as the only key of an object that holds nothing. -/
def variant {α : Type} (known : List (String × α)) : Decoder α
  | _, .string name => named name
  | layer, .object [(name, held)] =>
      match named name, layer, held with
      | .error error, _, _ => .error error
      | .ok value, _, .null => .ok value
      | .ok value, .tagged, .object [] => .ok value
      | .ok _, _, other => .error (.wrongType other "unit")
  | _, .object members => .error (.wrongValue (.object members) "map with a single key")
  | _, other => .error (.wrongType other "string or map")
where
  named (name : String) : Except DecodeError α :=
    match known.lookup name with
    | some value => .ok value
    | none => .error (.unknownVariant name (known.map Prod.fst))

end Decode

inductive FieldFault where
  | atKey (key : String) (error : DecodeError)
  | missing (name : String)

namespace FieldFault

def first : FieldFault → FieldFault → FieldFault
  | atKey left leftError, atKey right rightError =>
      if right < left then atKey right rightError else atKey left leftError
  | missing _, atKey right rightError => atKey right rightError
  | left, _ => left

def error : FieldFault → DecodeError
  | atKey _ error => error
  | missing name => .missingField name

end FieldFault

structure Fields (α : Type) where
  size : Nat
  named : Layer → List (String × Json) → Except FieldFault α
  listed : Layer → (wanted : String) → (position : Nat) → List Json →
    Except DecodeError (α × List Json)

namespace Fields

variable {α β : Type}

def always (value : α) : Fields α where
  size := 0
  named _ _ := .ok value
  listed _ _ _ items := .ok (value, items)

def apply (functions : Fields (α → β)) (arguments : Fields α) : Fields β where
  size := functions.size + arguments.size
  named layer members :=
    match functions.named layer members, arguments.named layer members with
    | .ok function, .ok argument => .ok (function argument)
    | .error left, .error right => .error (left.first right)
    | .error left, .ok _ => .error left
    | .ok _, .error right => .error right
  listed layer wanted position items :=
    match functions.listed layer wanted position items with
    | .error error => .error error
    | .ok (function, rest) =>
        match arguments.listed layer wanted (position + functions.size) rest with
        | .error error => .error error
        | .ok (argument, left) => .ok (function argument, left)

instance : Applicative Fields where
  pure := always
  seq functions arguments := functions.apply (arguments ())

/-- A field under any of its names; `absent` is what it is when it is left out. -/
def field (names : List String) (decoder : Decoder α) (absent : Option α) : Fields α where
  size := 1
  named layer members :=
    match members.filter (fun member => names.contains member.1) with
    | [] =>
        match absent with
        | some value => .ok value
        | none => .error (.missing (names.headD ""))
    | (key, value) :: others =>
        match decoder layer value, others with
        | .error error, _ => .error (.atKey key error)
        | .ok read, [] => .ok read
        | .ok _, (again, _) :: _ => .error (.atKey again (.duplicateField (names.headD "")))
  listed layer wanted position items :=
    match items with
    | [] =>
        match absent with
        | some value => .ok (value, [])
        | none => .error (.wrongLength position wanted)
    | item :: rest => (decoder layer item).map (fun read => (read, rest))

def required (name : String) (decoder : Decoder α) : Fields α :=
  field [name] decoder none

def defaulted (name : String) (decoder : Decoder α) (absent : α) : Fields α :=
  field [name] decoder (some absent)

def optional (name : String) (decoder : Decoder α) : Fields (Option α) :=
  field [name] (Decode.option decoder) (some none)

end Fields

def Decode.record {α : Type} (name : String) (fields : Fields α) : Decoder α
  | layer, .object members => (fields.named layer members).mapError FieldFault.error
  | layer, .array items =>
      let wanted := "struct " ++ name ++ " with " ++ toString fields.size ++ " elements"
      match fields.listed layer wanted 0 items, layer with
      | .error error, _ => .error error
      | .ok (read, []), _ => .ok read
      | .ok (_, _ :: _), .plain => .error (.wrongLength items.length "fewer elements in array")
      | .ok (_, _ :: _), .tagged =>
          .error (.wrongLength items.length (toString fields.size ++ " elements in sequence"))
  | _, other => .error (.wrongType other ("struct " ++ name))

end Compliance
