import Compliance.Text.Blank

/-!
A place in YAML text with what is ahead of it, the classes of characters that the grammar tells
apart, and line breaks, which are line feed, carriage return, both together, next line, line
separator and paragraph separator.
-/

namespace Compliance.Yaml

inductive Fault where
  | forbiddenCharacter
  | strayCharacter
  | unclosedKey
  | entryNotAllowed
  | keyNotAllowed
  | valueNotAllowed
  | badDirective
  | badAnchor
  | badTag
  | badEscape
  | unclosedQuote
  | strayColon
  | tabInIndentation
  | badBlockHeader
  | expectedDocumentStart
  | expectedContent
  | expectedEntry
  | expectedKey
  | unclosedFlow
  | undefinedTag
  | unknownAnchor
  | severalDocuments
  | wrongValue
  | nestedTooDeep
  | repeatedTooOften
deriving DecidableEq, Repr

def Fault.message : Fault → String
  | forbiddenCharacter => "control characters are not allowed"
  | strayCharacter => "found character that cannot start any token"
  | unclosedKey => "could not find expected ':'"
  | entryNotAllowed => "block sequence entries are not allowed in this context"
  | keyNotAllowed => "mapping keys are not allowed in this context"
  | valueNotAllowed => "mapping values are not allowed in this context"
  | badDirective => "found a malformed directive"
  | badAnchor => "did not find expected alphabetic or numeric character"
  | badTag => "found a malformed tag"
  | badEscape => "found unknown escape character"
  | unclosedQuote => "found unexpected end of stream"
  | strayColon => "found unexpected ':'"
  | tabInIndentation => "found a tab character that violates indentation"
  | badBlockHeader => "did not find expected comment or line break"
  | expectedDocumentStart => "did not find expected <document start>"
  | expectedContent => "did not find expected node content"
  | expectedEntry => "did not find expected '-' indicator"
  | expectedKey => "did not find expected key"
  | unclosedFlow => "did not find expected ',' or a closing bracket"
  | undefinedTag => "found undefined tag handle"
  | unknownAnchor => "unknown anchor"
  | severalDocuments => "more than one document"
  | wrongValue => "invalid value"
  | nestedTooDeep => "recursion limit exceeded"
  | repeatedTooOften => "repetition limit exceeded"

def isAllowed (c : Char) : Bool :=
  let point := c.toNat
  point == 0x9 || point == 0xA || point == 0xD || (0x20 ≤ point && point ≤ 0x7E) ||
    point == 0x85 || (0xA0 ≤ point && point ≤ 0xFFFD) || 0x10000 ≤ point

def isSpaceOrTab (c : Char) : Bool := c == ' ' || c == '\t'

def isBreak (c : Char) : Bool :=
  c == '\n' || c == '\r' || c == '\u0085' || c == '\u2028' || c == '\u2029'

def isBreakOrEnd : Option Char → Bool
  | none => true
  | some c => isBreak c

def isGapOrEnd : Option Char → Bool
  | none => true
  | some c => isSpaceOrTab c || isBreak c

def isNameChar (c : Char) : Bool := c.isAlphanum || c == '_' || c == '-'

/-- Characters from the start, and the line and the column in characters. -/
structure Mark where
  index : Nat := 0
  line : Nat := 0
  column : Nat := 0
deriving DecidableEq, Repr

structure Cursor where
  ahead : List Char
  mark : Mark := {}

namespace Cursor

def peek (cursor : Cursor) : Option Char := cursor.ahead.head?

def peekAt (cursor : Cursor) (offset : Nat) : Option Char := cursor.ahead[offset]?

def column (cursor : Cursor) : Nat := cursor.mark.column

def skip (cursor : Cursor) (count : Nat) : Cursor :=
  { ahead := cursor.ahead.drop count
    mark := { cursor.mark with
      index := cursor.mark.index + count
      column := cursor.mark.column + count } }

def nextLine (cursor : Cursor) (count : Nat) : Cursor :=
  { ahead := cursor.ahead.drop count
    mark := ⟨cursor.mark.index + count, cursor.mark.line + 1, 0⟩ }

def readBreak (cursor : Cursor) : List Char × Cursor :=
  match cursor.ahead with
  | '\r' :: '\n' :: _ => (['\n'], cursor.nextLine 2)
  | c :: _ =>
      if c == '\u2028' || c == '\u2029' then ([c], cursor.nextLine 1)
      else if isBreak c then (['\n'], cursor.nextLine 1)
      else ([], cursor)
  | [] => ([], cursor)

def skipBreak (cursor : Cursor) : Cursor := cursor.readBreak.2

def span (cursor : Cursor) (belongs : Char → Bool) : List Char × Cursor :=
  let taken := cursor.ahead.takeWhile belongs
  (taken, cursor.skip taken.length)

def skipWhile (cursor : Cursor) (belongs : Char → Bool) : Cursor :=
  (cursor.span belongs).2

def skipComment (cursor : Cursor) : Cursor :=
  if cursor.peek == some '#' then cursor.skipWhile fun c => !isBreak c else cursor

def startsMarker (cursor : Cursor) (c : Char) : Bool :=
  cursor.column == 0 && cursor.ahead.take 3 == [c, c, c] && isGapOrEnd (cursor.peekAt 3)

def atDocumentMarker (cursor : Cursor) : Bool :=
  cursor.startsMarker '-' || cursor.startsMarker '.'

end Cursor

end Compliance.Yaml
