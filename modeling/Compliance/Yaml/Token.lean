import Compliance.Number.Binary64
import Compliance.Yaml.Scalar

/-!
Tokens of YAML text, and the reading of those that are more than a mark or a scalar: directives,
anchors and tags.
-/

namespace Compliance.Yaml

inductive Token where
  | version (major minor : Nat)
  | tagHandle (handle expansion : List Char)
  | documentStart
  | documentEnd
  | blockSequence
  | blockMapping
  | blockEnd
  | flowSequence
  | flowSequenceEnd
  | flowMapping
  | flowMappingEnd
  | blockEntry
  | flowEntry
  | key
  | value
  | reference (name : List Char)
  | anchor (name : List Char)
  | tag (handle suffix : List Char)
  | scalar (text : String) (style : ScalarStyle)
deriving DecidableEq, Repr

abbrev Scanned := Except Fault (Token × Cursor)

def scanName (cursor : Cursor) : Except Fault (List Char × Cursor) :=
  let (name, after) := cursor.span isNameChar
  let ends := isGapOrEnd after.peek ||
    after.peek.any fun c => ['?', ':', ',', ']', '}', '%', '@', Char.ofNat 0x60].contains c
  if name.isEmpty || !ends then .error .badAnchor else .ok (name, after)

namespace Tag

def marks : List Char :=
  [';', '/', '?', ':', '@', '&', '=', '+', '$', '.', '%', '!', '~', '*', '\'', '(', ')']

def isTagChar (wide : Bool) (c : Char) : Bool :=
  isNameChar c || marks.contains c || wide && [',', '[', ']'].contains c

def octet? : List Char → Option Nat
  | '%' :: high :: low :: _ => Quoted.hexValue? [high, low]
  | _ => none

def octetCount? (lead : Nat) : Option Nat :=
  if lead < 0x80 then some 1
  else if lead < 0xC0 then none
  else if lead < 0xE0 then some 2
  else if lead < 0xF0 then some 3
  else if lead < 0xF8 then some 4
  else none

def trailing : (count : Nat) → (point : Nat) → List Char → Option Nat
  | 0, point, _ => some point
  | count + 1, point, text =>
      match octet? text with
      | some value =>
          if value / 0x40 = 2 then trailing count (0x40 * point + value % 0x40) (text.drop 3)
          else none
      | none => none

def escaped (cursor : Cursor) : Except Fault (Char × Cursor) :=
  let read := do
    let lead ← octet? cursor.ahead
    let count ← octetCount? lead
    let first := if count = 1 then lead else lead % Nat.pow 2 (7 - count)
    let point ← trailing (count - 1) first (cursor.ahead.drop 3)
    return (Char.ofNat point, cursor.skip (3 * count))
  read.elim (.error .badTag) .ok

def characters (wide : Bool) : (fuel : Nat) → (text : List Char) → Cursor →
    Except Fault (List Char × Cursor)
  | 0, text, cursor => .ok (text.reverse, cursor)
  | fuel + 1, text, cursor =>
      match cursor.peek with
      | none => .ok (text.reverse, cursor)
      | some c =>
          if c == '%' then
            match escaped cursor with
            | .ok (read, after) => characters wide fuel (read :: text) after
            | .error fault => .error fault
          else if isTagChar wide c then characters wide fuel (c :: text) (cursor.skip 1)
          else .ok (text.reverse, cursor)

def someCharacters (fuel : Nat) (wide : Bool) (cursor : Cursor) :
    Except Fault (List Char × Cursor) := do
  let (text, after) ← characters wide fuel [] cursor
  if after.mark == cursor.mark then .error .badTag else return (text, after)

def handle (cursor : Cursor) : List Char × Cursor :=
  let (name, after) := (cursor.skip 1).span isNameChar
  if after.peek == some '!' then ('!' :: name ++ ['!'], after.skip 1) else ('!' :: name, after)

def verbatim (fuel : Nat) (cursor : Cursor) : Scanned := do
  let (suffix, after) ← someCharacters fuel true (cursor.skip 2)
  if after.peek == some '>' then return (.tag [] suffix, after.skip 1) else .error .badTag

/-- A tag that starts with a handle. A lone exclamation mark has no handle. -/
def shorthand (fuel : Nat) (cursor : Cursor) : Scanned := do
  let (handle, after) := handle cursor
  if 1 < handle.length && handle.getLast? == some '!' then
    let (suffix, last) ← someCharacters fuel false after
    return (.tag handle suffix, last)
  else
    let (suffix, last) ← characters false fuel handle.tail.reverse after
    return (if suffix.isEmpty then .tag [] ['!'] else .tag ['!'] suffix, last)

end Tag

def scanTag (fuel : Nat) (inFlow : Bool) (cursor : Cursor) : Scanned := do
  let (token, after) ←
    if cursor.peekAt 1 == some '<' then Tag.verbatim fuel cursor else Tag.shorthand fuel cursor
  if isGapOrEnd after.peek || inFlow && after.peek == some ',' then return (token, after)
  else .error .badTag

namespace Directive

def number (cursor : Cursor) : Except Fault (Nat × Cursor) :=
  let (digits, after) := cursor.span Char.isDigit
  if digits.isEmpty || 9 < digits.length then .error .badDirective
  else .ok (digits.foldl (fun value c => 10 * value + (c.toNat - '0'.toNat)) 0, after)

def version (cursor : Cursor) : Scanned := do
  let (major, after) ← number (cursor.skipWhile isSpaceOrTab)
  if after.peek == some '.' then
    let (minor, last) ← number (after.skip 1)
    return (.version major minor, last)
  else .error .badDirective

def tagHandle (fuel : Nat) (cursor : Cursor) : Scanned := do
  let start := cursor.skipWhile isSpaceOrTab
  let (handle, after) := Tag.handle start
  let isHandle := start.peek == some '!' && (handle == ['!'] || handle.getLast? == some '!')
  if isHandle && after.peek.any isSpaceOrTab then
    let (expansion, last) ← Tag.someCharacters fuel true (after.skipWhile isSpaceOrTab)
    if isGapOrEnd last.peek then return (.tagHandle handle expansion, last)
    else .error .badDirective
  else .error .badDirective

end Directive

def scanDirective (fuel : Nat) (cursor : Cursor) : Scanned := do
  let (name, after) := (cursor.skip 1).span isNameChar
  let (token, last) ←
    if !isGapOrEnd after.peek then .error .badDirective
    else if name == "YAML".toList then Directive.version after
    else if name == "TAG".toList then Directive.tagHandle fuel after
    else .error .badDirective
  let lineEnd := (last.skipWhile isSpaceOrTab).skipComment
  if isBreakOrEnd lineEnd.peek then return (token, lineEnd.skipBreak) else .error .badDirective

end Compliance.Yaml
