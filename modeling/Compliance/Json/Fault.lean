import Compliance.Json.Basic
import Compliance.Json.Printer
import Compliance.Text.Quoted

/-!
What can be wrong with JSON text, and where. A fault tells its cause, the text that was ahead, and
how many bytes of it count as read; line and column, in bytes, follow from these.
-/

namespace Compliance.Json

def described : Json → String
  | .null => "null"
  | .bool value => "boolean `" ++ (if value then "true" else "false") ++ "`"
  | .integer value => "integer `" ++ String.ofList (integerText value) ++ "`"
  | .float value => "floating point `" ++ floatText value ++ "`"
  | .string text => "string " ++ quoted text
  | .array _ => "sequence"
  | .object _ => "map"

inductive Cause where
  | endInValue
  | endInList
  | endInObject
  | endInString
  | expectedColon
  | expectedListEnd
  | expectedObjectEnd
  | expectedIdent
  | expectedValue
  | invalidEscape
  | invalidNumber
  | numberOutOfRange
  | loneSurrogate
  | unpairedSurrogate
  | controlCharacter
  | keyNotString
  | trailingComma
  | trailingCharacters
  | nestedTooDeep
  | notList (found : Json)

def Cause.message : Cause → String
  | .endInValue => "EOF while parsing a value"
  | .endInList => "EOF while parsing a list"
  | .endInObject => "EOF while parsing an object"
  | .endInString => "EOF while parsing a string"
  | .expectedColon => "expected `:`"
  | .expectedListEnd => "expected `,` or `]`"
  | .expectedObjectEnd => "expected `,` or `\x7d`"
  | .expectedIdent => "expected ident"
  | .expectedValue => "expected value"
  | .invalidEscape => "invalid escape"
  | .invalidNumber => "invalid number"
  | .numberOutOfRange => "number out of range"
  | .loneSurrogate => "lone leading surrogate in hex escape"
  | .unpairedSurrogate => "unexpected end of hex escape"
  | .controlCharacter => "control character (\\u0000-\\u001F) found while parsing a string"
  | .keyNotString => "key must be a string"
  | .trailingComma => "trailing comma"
  | .trailingCharacters => "trailing characters"
  | .nestedTooDeep => "recursion limit exceeded"
  | .notList found => "invalid type: " ++ found.described ++ ", expected a sequence"

structure Fault where
  cause : Cause
  ahead : List Char
  looked : Nat

abbrev Reading (α : Type) := Except Fault (α × List Char)

def failAt {α : Type} (cause : Cause) (ahead : List Char) : Except Fault α :=
  .error ⟨cause, ahead, 0⟩

def failOn {α : Type} (cause : Cause) (ahead : List Char) : Except Fault α :=
  .error ⟨cause, ahead, 1⟩

structure Place where
  line : Nat
  column : Nat
deriving DecidableEq, Repr

def Place.past (place : Place) (c : Char) (bytes : Nat) : Place :=
  if c = '\n' then ⟨place.line + 1, 0⟩ else ⟨place.line, place.column + bytes⟩

def Place.into (place : Place) : Nat → List Char → Place
  | _, [] => place
  | bytes, c :: rest =>
      if bytes = 0 then place
      else if bytes < c.utf8Size then place.past c bytes
      else (place.past c c.utf8Size).into (bytes - c.utf8Size) rest

def Fault.place (text : List Char) (fault : Fault) : Place :=
  let before := text.take (text.length - fault.ahead.length)
  let start := before.foldl (fun (place : Place) c => place.past c c.utf8Size) ⟨1, 0⟩
  start.into fault.looked fault.ahead

def Fault.message (text : List Char) (fault : Fault) : String :=
  let place := fault.place text
  fault.cause.message ++ " at line " ++ toString place.line ++ " column " ++ toString place.column

end Compliance.Json
