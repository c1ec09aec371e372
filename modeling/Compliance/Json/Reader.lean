import Compliance.Json.Reader.String

/-!
Reading JSON values. A reader takes the text still ahead and gives the value with the text after
it, or a fault. Of members with equal keys the last one stays.
-/

namespace Compliance.Json

def isSpace (c : Char) : Bool :=
  c == ' ' || c == '\n' || c == '\t' || c == '\r'

def skipSpace (text : List Char) : List Char :=
  text.dropWhile isSpace

def word (value : Json) : List Char → List Char → Reading Json
  | [], text => .ok (value, text)
  | _ :: _, [] => failAt .endInValue []
  | expected :: rest, c :: text =>
      if c = expected then word value rest text else failOn .expectedIdent (c :: text)

mutual

/-- Reads a value at least one character long; `depth` more lists or objects may be opened. -/
def value (depth : Nat) : Nat → List Char → Reading Json
  | 0, text => failAt .endInValue text
  | fuel + 1, text =>
      match skipSpace text with
      | [] => failAt .endInValue []
      | 'n' :: rest => word .null ['u', 'l', 'l'] rest
      | 't' :: rest => word (.bool true) ['r', 'u', 'e'] rest
      | 'f' :: rest => word (.bool false) ['a', 'l', 's', 'e'] rest
      | '-' :: rest => number true rest
      | '"' :: rest =>
          match stringRest [] fuel rest with
          | .ok (read, after) => .ok (.string read, after)
          | .error fault => .error fault
      | '[' :: rest =>
          match depth with
          | 0 => failOn .nestedTooDeep ('[' :: rest)
          | inner + 1 => firstItem inner fuel rest
      | '{' :: rest =>
          match depth with
          | 0 => failOn .nestedTooDeep ('{' :: rest)
          | inner + 1 => firstMember inner fuel rest
      | c :: rest =>
          if isDigit c then number false (c :: rest) else failOn .expectedValue (c :: rest)

def firstItem (depth : Nat) : Nat → List Char → Reading Json
  | 0, text => failAt .endInList text
  | fuel + 1, text =>
      match skipSpace text with
      | [] => failAt .endInList []
      | ']' :: rest => .ok (.array [], rest)
      | ahead =>
          match value depth fuel ahead with
          | .ok (item, after) => nextItem depth [item] fuel after
          | .error fault => .error fault

def nextItem (depth : Nat) (done : List Json) : Nat → List Char → Reading Json
  | 0, text => failAt .endInList text
  | fuel + 1, text =>
      match skipSpace text with
      | [] => failAt .endInList []
      | ']' :: rest => .ok (.array done.reverse, rest)
      | ',' :: rest =>
          match skipSpace rest with
          | [] => failAt .endInValue []
          | ']' :: after => failOn .trailingComma (']' :: after)
          | ahead =>
              match value depth fuel ahead with
              | .ok (item, after) => nextItem depth (item :: done) fuel after
              | .error fault => .error fault
      | ahead => failOn .expectedListEnd ahead

def firstMember (depth : Nat) : Nat → List Char → Reading Json
  | 0, text => failAt .endInObject text
  | fuel + 1, text =>
      match skipSpace text with
      | [] => failAt .endInObject []
      | '}' :: rest => .ok (.object [], rest)
      | '"' :: rest =>
          match member depth fuel rest with
          | .ok ((key, read), after) => nextMember depth [(key, read)] fuel after
          | .error fault => .error fault
      | ahead => failOn .keyNotString ahead

def nextMember (depth : Nat) (done : List (String × Json)) : Nat → List Char → Reading Json
  | 0, text => failAt .endInObject text
  | fuel + 1, text =>
      match skipSpace text with
      | [] => failAt .endInObject []
      | '}' :: rest => .ok (.object done, rest)
      | ',' :: rest =>
          match skipSpace rest with
          | [] => failAt .endInValue []
          | '}' :: after => failOn .trailingComma ('}' :: after)
          | '"' :: after =>
              match member depth fuel after with
              | .ok ((key, read), left) =>
                  nextMember depth (Keyed.insert key read done) fuel left
              | .error fault => .error fault
          | ahead => failOn .keyNotString ahead
      | ahead => failOn .expectedObjectEnd ahead

def member (depth : Nat) : Nat → List Char → Reading (String × Json)
  | 0, text => failAt .endInObject text
  | fuel + 1, text =>
      match stringRest [] fuel text with
      | .error fault => .error fault
      | .ok (key, after) =>
          match skipSpace after with
          | [] => failAt .endInObject []
          | ':' :: rest =>
              match value depth fuel rest with
              | .ok (read, left) => .ok ((key, read), left)
              | .error fault => .error fault
          | ahead => failOn .expectedColon ahead

end

/-- Enough for any text: every step but the first two of a level reads a character. -/
def fuelFor (text : List Char) : Nat := 4 * text.length + 4

def atEnd {α : Type} : Reading α → Except Fault α
  | .error fault => .error fault
  | .ok (read, after) =>
      match skipSpace after with
      | [] => .ok read
      | ahead => failOn .trailingCharacters ahead

def read (depth : Nat) (text : List Char) : Except Fault Json :=
  atEnd (value depth (fuelFor text) text)

/-- What stands where a list was wanted. Of an object not even the first brace is read. -/
def listOnly (depth : Nat) (text : List Char) : Reading (List Json) :=
  match skipSpace text with
  | '{' :: rest => failAt (.notList (.object [])) ('{' :: rest)
  | ahead =>
      match value depth (fuelFor text) ahead with
      | .error fault => .error fault
      | .ok (.array items, after) => .ok (items, after)
      | .ok (other, after) => failAt (.notList other) after

def readList (depth : Nat) (text : List Char) : Except Fault (List Json) :=
  atEnd (listOnly depth text)

def nestingLimit : Nat := 127

def ofText (text : String) : Except String Json :=
  (read nestingLimit text.toList).mapError (Fault.message text.toList)

def listOfText (text : String) : Except String (List Json) :=
  (readList nestingLimit text.toList).mapError (Fault.message text.toList)

end Compliance.Json
