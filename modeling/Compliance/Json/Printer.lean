import Compliance.Json.Basic
import Compliance.Json.Number

/-!
JSON text: `pretty` breaks lines and indents by two spaces, `compact` writes one line. A control
character, a quote and a backslash inside a string are escaped, and nothing else is.
-/

namespace Compliance.Json

def hexDigit (value : Nat) : Char := Nat.digitChar (value % 16)

def escapedChar (c : Char) : List Char :=
  if c = '"' ∨ c = '\\' then ['\\', c]
  else if c = '\n' then ['\\', 'n']
  else if c = '\r' then ['\\', 'r']
  else if c = '\t' then ['\\', 't']
  else if c = '\x08' then ['\\', 'b']
  else if c = '\x0c' then ['\\', 'f']
  else if c.toNat < 0x20 then ['\\', 'u', '0', '0', hexDigit (c.toNat / 16), hexDigit c.toNat]
  else [c]

def stringText (text : String) : List Char :=
  '"' :: text.toList.flatMap escapedChar ++ ['"']

def integerText : Int → List Char
  | .ofNat value => Nat.toDigits 10 value
  | .negSucc value => '-' :: Nat.toDigits 10 (value + 1)

def newLine (level : Nat) : List Char :=
  '\n' :: List.replicate (2 * level) ' '

mutual

def prettyAt (level : Nat) : Json → List Char
  | .null => "null".toList
  | .bool true => "true".toList
  | .bool false => "false".toList
  | .integer value => integerText value
  | .float value => (floatText value).toList
  | .string text => stringText text
  | .array [] => ['[', ']']
  | .array (item :: rest) =>
      '[' :: newLine (level + 1) ++ prettyAt (level + 1) item ++ prettyItems (level + 1) rest ++
        newLine level ++ [']']
  | .object [] => ['{', '}']
  | .object ((key, value) :: rest) =>
      '{' :: newLine (level + 1) ++ stringText key ++ [':', ' '] ++ prettyAt (level + 1) value ++
        prettyMembers (level + 1) rest ++ newLine level ++ ['}']

def prettyItems (level : Nat) : List Json → List Char
  | [] => []
  | item :: rest => ',' :: newLine level ++ prettyAt level item ++ prettyItems level rest

def prettyMembers (level : Nat) : List (String × Json) → List Char
  | [] => []
  | (key, value) :: rest =>
      ',' :: newLine level ++ stringText key ++ [':', ' '] ++ prettyAt level value ++
        prettyMembers level rest

end

def pretty (value : Json) : String :=
  String.ofList (prettyAt 0 value)

mutual

def compactChars : Json → List Char
  | .null => "null".toList
  | .bool true => "true".toList
  | .bool false => "false".toList
  | .integer value => integerText value
  | .float value => (floatText value).toList
  | .string text => stringText text
  | .array [] => ['[', ']']
  | .array (item :: rest) => '[' :: compactChars item ++ compactItems rest ++ [']']
  | .object [] => ['{', '}']
  | .object ((key, value) :: rest) =>
      '{' :: stringText key ++ ':' :: compactChars value ++ compactMembers rest ++ ['}']

def compactItems : List Json → List Char
  | [] => []
  | item :: rest => ',' :: compactChars item ++ compactItems rest

def compactMembers : List (String × Json) → List Char
  | [] => []
  | (key, value) :: rest =>
      ',' :: stringText key ++ ':' :: compactChars value ++ compactMembers rest

end

def compact (value : Json) : String :=
  String.ofList (compactChars value)

end Compliance.Json
