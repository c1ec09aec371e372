import Compliance.Json.Reader.Number

/-!
Reading a JSON string with its escapes. Surrogates have to come in pairs.
-/

namespace Compliance.Json

def hexValue? (c : Char) : Option Nat :=
  if isDigit c then some (digitValue c)
  else if 'a' ≤ c ∧ c ≤ 'f' then some (c.toNat - 'a'.toNat + 10)
  else if 'A' ≤ c ∧ c ≤ 'F' then some (c.toNat - 'A'.toNat + 10)
  else none

def hexNumber? (text : List Char) : Option Nat :=
  text.foldl (fun number c => number.bind fun high => (hexValue? c).map (16 * high + ·)) (some 0)

def byteCount (text : List Char) : Nat :=
  text.foldl (fun count c => count + c.utf8Size) 0

def codeUnit (text : List Char) : Reading Nat :=
  if byteCount (text.take 4) < 4 then failAt .endInString []
  else
    match hexNumber? (text.take 4) with
    | some unit => .ok (unit, text.drop 4)
    | none => .error ⟨.invalidEscape, text, 4⟩

def isLeading (unit : Nat) : Bool := 0xD800 ≤ unit && unit < 0xDC00

def isTrailing (unit : Nat) : Bool := 0xDC00 ≤ unit && unit < 0xE000

def pairedWith (leading : Nat) (text : List Char) : Reading Char :=
  match text with
  | [] => failAt .endInString []
  | '\\' :: [] => failAt .endInString []
  | '\\' :: 'u' :: rest =>
      match codeUnit rest with
      | .error fault => .error fault
      | .ok (trailing, after) =>
          if isTrailing trailing then
            .ok (Char.ofNat ((leading - 0xD800) * 0x400 + (trailing - 0xDC00) + 0x10000), after)
          else failAt .loneSurrogate after
  | '\\' :: rest => failOn .unpairedSurrogate rest
  | _ => failOn .unpairedSurrogate text

def escape (text : List Char) : Reading Char :=
  match text with
  | [] => failAt .endInString []
  | '"' :: rest => .ok ('"', rest)
  | '\\' :: rest => .ok ('\\', rest)
  | '/' :: rest => .ok ('/', rest)
  | 'b' :: rest => .ok ('\x08', rest)
  | 'f' :: rest => .ok ('\x0c', rest)
  | 'n' :: rest => .ok ('\n', rest)
  | 'r' :: rest => .ok ('\r', rest)
  | 't' :: rest => .ok ('\t', rest)
  | 'u' :: rest =>
      match codeUnit rest with
      | .error fault => .error fault
      | .ok (unit, after) =>
          if isTrailing unit then failAt .loneSurrogate after
          else if isLeading unit then pairedWith unit after
          else .ok (Char.ofNat unit, after)
  | _ => failOn .invalidEscape text

def stringRest (done : List Char) : Nat → List Char → Reading String
  | 0, text => failAt .endInString text
  | _ + 1, [] => failAt .endInString []
  | fuel + 1, c :: rest =>
      if c = '"' then .ok (String.ofList done.reverse, rest)
      else if c = '\\' then
        match escape rest with
        | .ok (read, after) => stringRest (read :: done) fuel after
        | .error fault => .error fault
      else if c.toNat < 0x20 then failOn .controlCharacter (c :: rest)
      else stringRest (c :: done) fuel rest

end Compliance.Json
