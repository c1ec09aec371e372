import Compliance.Text.CharSet

/-!
Text between double quotes for messages, with every character that would not show as itself
written as an escape.
-/

namespace Compliance.Text

def hexDigits (value : Nat) : List Char := Nat.toDigits 16 value

def codePointEscape (c : Char) : List Char :=
  ['\\', 'u', '{'] ++ hexDigits c.toNat ++ ['}']

def quotedChar (c : Char) : List Char :=
  if c = '\x00' then ['\\', '0']
  else if c = '\t' then ['\\', 't']
  else if c = '\r' then ['\\', 'r']
  else if c = '\n' then ['\\', 'n']
  else if c = '"' ∨ c = '\\' then ['\\', c]
  else if extending.contains c || unprintable.contains c then codePointEscape c
  else [c]

def quotedPathChar (c : Char) : List Char :=
  if c = '\'' then ['\\', c] else quotedChar c

end Compliance.Text

namespace Compliance

def quoted (text : String) : String :=
  String.ofList ('"' :: text.toList.flatMap Text.quotedChar ++ ['"'])

def quotedPath (path : String) : String :=
  String.ofList ('"' :: path.toList.flatMap Text.quotedPathChar ++ ['"'])

end Compliance
