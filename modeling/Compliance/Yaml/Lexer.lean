import Compliance.Yaml.Token

/-!
From YAML text to tokens. Indentation becomes tokens that open and close blocks. A key token is
only known to be one when its colon comes; until then its place is remembered, and it has to come
on the same line and within 1024 characters.
-/

namespace Compliance.Yaml

/-- Where a key may have started: the number of its token and its place in the text. -/
structure KeyPlace where
  number : Nat
  mark : Mark
  /-- Set when nothing but a key can stand there. -/
  required : Bool

structure Lexer where
  cursor : Cursor
  /-- The tokens so far, the last one first. -/
  tokens : List Token := []
  count : Nat := 0
  /-- The indentation of the innermost block, and of those around it. -/
  indent : Int := -1
  outerIndents : List Int := []
  keyAllowed : Bool := true
  /-- Where the current key may have started, and the same for the brackets around. -/
  keyPlace : Option KeyPlace := none
  outerKeyPlaces : List (Option KeyPlace) := []

def keyLength : Nat := 1024

namespace Lexer

def inFlow (lexer : Lexer) : Bool := !lexer.outerKeyPlaces.isEmpty

def push (lexer : Lexer) (token : Token) : Lexer :=
  { lexer with tokens := token :: lexer.tokens, count := lexer.count + 1 }

def pushAt (lexer : Lexer) (number : Nat) (token : Token) : Lexer :=
  let (later, earlier) := lexer.tokens.splitAt (lexer.count - number)
  { lexer with tokens := later ++ token :: earlier, count := lexer.count + 1 }

def toNextToken : (fuel : Nat) → Lexer → Lexer
  | 0, lexer => lexer
  | fuel + 1, lexer =>
      let start :=
        if lexer.cursor.mark.index == 0 && lexer.cursor.peek == some '\ufeff'
        then lexer.cursor.skip 1 else lexer.cursor
      let tabs := lexer.inFlow || !lexer.keyAllowed
      let cursor := (start.skipWhile fun c => c == ' ' || tabs && c == '\t').skipComment
      if cursor.peek.any isBreak then
        toNextToken fuel { lexer with
          cursor := cursor.skipBreak
          keyAllowed := lexer.keyAllowed || !lexer.inFlow }
      else { lexer with cursor }

def isStale (lexer : Lexer) (place : KeyPlace) : Bool :=
  place.mark.line < lexer.cursor.mark.line ||
    place.mark.index + keyLength < lexer.cursor.mark.index

def refresh (lexer : Lexer) : Option KeyPlace → Except Fault (Option KeyPlace)
  | none => .ok none
  | some place =>
      if !lexer.isStale place then .ok (some place)
      else if place.required then .error .unclosedKey
      else .ok none

def dropStaleKeys (lexer : Lexer) : Except Fault Lexer := do
  let keyPlace ← lexer.refresh lexer.keyPlace
  let outerKeyPlaces ← lexer.outerKeyPlaces.mapM lexer.refresh
  return { lexer with keyPlace, outerKeyPlaces }

def dropKey (lexer : Lexer) : Except Fault Lexer :=
  if lexer.keyPlace.any KeyPlace.required then .error .unclosedKey
  else .ok { lexer with keyPlace := none }

def saveKey (lexer : Lexer) : Except Fault Lexer :=
  if !lexer.keyAllowed then .ok lexer
  else do
    let cleared ← lexer.dropKey
    return { cleared with
      keyPlace := some
        { number := lexer.count
          mark := lexer.cursor.mark
          required := !lexer.inFlow && lexer.indent == lexer.cursor.column } }

/-- Opens a block at a column deeper than the innermost one; its token is put before the token
with the given number. -/
def openBlock (lexer : Lexer) (column number : Nat) (token : Token) : Lexer :=
  if lexer.inFlow || column ≤ lexer.indent then lexer
  else
    { lexer.pushAt number token with
      indent := column
      outerIndents := lexer.indent :: lexer.outerIndents }

def closeBlocks (column : Int) : List Int → Lexer → Lexer
  | [], lexer => lexer
  | outer :: rest, lexer =>
      if lexer.inFlow || lexer.indent ≤ column then lexer
      else
        closeBlocks column rest
          { lexer.push .blockEnd with indent := outer, outerIndents := rest }

def unindent (lexer : Lexer) (column : Int) : Lexer :=
  closeBlocks column lexer.outerIndents lexer

def mark (lexer : Lexer) (length : Nat) (token : Token) : Lexer :=
  { lexer.push token with cursor := lexer.cursor.skip length }

def documentMark (lexer : Lexer) (token : Token) : Except Fault Lexer := do
  let closed ← (lexer.unindent (-1)).dropKey
  return { closed with keyAllowed := false }.mark 3 token

def directive (lexer : Lexer) (fuel : Nat) : Except Fault Lexer := do
  let closed ← (lexer.unindent (-1)).dropKey
  let (token, cursor) ← scanDirective fuel closed.cursor
  return { closed.push token with cursor, keyAllowed := false }

def flowStart (lexer : Lexer) (token : Token) : Except Fault Lexer := do
  let saved ← lexer.saveKey
  return { saved with
    keyAllowed := true
    keyPlace := none
    outerKeyPlaces := saved.keyPlace :: saved.outerKeyPlaces }.mark 1 token

/-- A bracket that closes nothing is left to the reader of nodes. -/
def flowEnd (lexer : Lexer) (token : Token) : Except Fault Lexer := do
  let cleared ← lexer.dropKey
  let inner := { cleared with keyAllowed := false }
  let outer := match inner.outerKeyPlaces with
    | [] => inner
    | keyPlace :: rest => { inner with keyPlace, outerKeyPlaces := rest }
  return outer.mark 1 token

def flowEntry (lexer : Lexer) : Except Fault Lexer := do
  let cleared ← lexer.dropKey
  return { cleared with keyAllowed := true }.mark 1 .flowEntry

def blockAtIndicator (lexer : Lexer) (token : Token) (fault : Fault) : Except Fault Lexer :=
  if lexer.inFlow then .ok lexer
  else if lexer.keyAllowed then
    .ok (lexer.openBlock lexer.cursor.column lexer.count token)
  else .error fault

def blockEntry (lexer : Lexer) : Except Fault Lexer := do
  let opened ← lexer.blockAtIndicator .blockSequence .entryNotAllowed
  let cleared ← opened.dropKey
  return { cleared with keyAllowed := true }.mark 1 .blockEntry

def key (lexer : Lexer) : Except Fault Lexer := do
  let opened ← lexer.blockAtIndicator .blockMapping .keyNotAllowed
  let cleared ← opened.dropKey
  return { cleared with keyAllowed := !lexer.inFlow }.mark 1 .key

def value (lexer : Lexer) : Except Fault Lexer :=
  match lexer.keyPlace with
  | some place =>
      let keyed := lexer.pushAt place.number .key
      let opened := keyed.openBlock place.mark.column place.number .blockMapping
      .ok ({ opened with keyPlace := none, keyAllowed := false }.mark 1 .value)
  | none => do
      let opened ← lexer.blockAtIndicator .blockMapping .valueNotAllowed
      return { opened with keyAllowed := !lexer.inFlow }.mark 1 .value

def content (lexer : Lexer) (scan : Cursor → Scanned) : Except Fault Lexer := do
  let saved ← lexer.saveKey
  let (token, cursor) ← scan saved.cursor
  return { saved.push token with cursor, keyAllowed := false }

def named (token : List Char → Token) (cursor : Cursor) : Scanned := do
  let (name, after) ← scanName (cursor.skip 1)
  return (token name, after)

def quoted (fuel : Nat) (single : Bool) (cursor : Cursor) : Scanned := do
  let scanned ← scanQuoted fuel single cursor
  let style := if single then ScalarStyle.singleQuoted else .doubleQuoted
  return (.scalar scanned.text style, scanned.cursor)

def block (lexer : Lexer) (fuel : Nat) (literal : Bool) : Except Fault Lexer := do
  let cleared ← lexer.dropKey
  let scanned ← scanBlock fuel literal lexer.indent lexer.cursor
  let style := if literal then ScalarStyle.literal else .folded
  return { cleared.push (.scalar scanned.text style) with
    cursor := scanned.cursor, keyAllowed := true }

def plain (lexer : Lexer) (fuel : Nat) : Except Fault Lexer := do
  let saved ← lexer.saveKey
  let scanned ← scanPlain fuel lexer.inFlow (lexer.indent + 1).toNat lexer.cursor
  return { saved.push (.scalar scanned.text .plain) with
    cursor := scanned.cursor, keyAllowed := scanned.broken }

def indicators : List Char :=
  ['-', '?', ':', ',', '[', ']', '{', '}', '#', '&', '*', '!', '|', '>', '\'', '"', '%', '@',
    Char.ofNat 0x60]

def startsPlain (inFlow : Bool) (c : Char) (next : Option Char) : Bool :=
  !(isSpaceOrTab c || isBreak c || indicators.contains c) ||
    c == '-' && !next.any isSpaceOrTab || !inFlow && (c == '?' || c == ':') && !isGapOrEnd next

def token (lexer : Lexer) (fuel : Nat) (c : Char) : Except Fault Lexer :=
  let next := lexer.cursor.peekAt 1
  if c == '%' && lexer.cursor.column == 0 then lexer.directive fuel
  else if lexer.cursor.startsMarker '-' then lexer.documentMark .documentStart
  else if lexer.cursor.startsMarker '.' then lexer.documentMark .documentEnd
  else if c == '[' then lexer.flowStart .flowSequence
  else if c == '{' then lexer.flowStart .flowMapping
  else if c == ']' then lexer.flowEnd .flowSequenceEnd
  else if c == '}' then lexer.flowEnd .flowMappingEnd
  else if c == ',' then lexer.flowEntry
  else if c == '-' && isGapOrEnd next then lexer.blockEntry
  else if c == '?' && (lexer.inFlow || isGapOrEnd next) then lexer.key
  else if c == ':' && (lexer.inFlow || isGapOrEnd next) then lexer.value
  else if c == '*' then lexer.content (named .reference)
  else if c == '&' then lexer.content (named .anchor)
  else if c == '!' then lexer.content (scanTag fuel lexer.inFlow)
  else if c == '|' && !lexer.inFlow then lexer.block fuel true
  else if c == '>' && !lexer.inFlow then lexer.block fuel false
  else if c == '\'' then lexer.content (quoted fuel true)
  else if c == '"' then lexer.content (quoted fuel false)
  else if startsPlain lexer.inFlow c next then lexer.plain fuel
  else .error .strayCharacter

def run : (fuel : Nat) → Lexer → Except Fault Lexer
  | 0, lexer => .ok lexer
  | fuel + 1, lexer => do
      let fresh ← (lexer.toNextToken (fuel + 1)).dropStaleKeys
      let closed := fresh.unindent fresh.cursor.column
      match closed.cursor.peek with
      | none => (closed.unindent (-1)).dropKey
      | some c => run fuel (← closed.token (fuel + 1) c)

end Lexer

def Token.ofText (text : List Char) : Except Fault (List Token) :=
  if text.all isAllowed then do
    let last ← Lexer.run (text.length + 1) { cursor := { ahead := text } }
    return last.tokens.reverse
  else .error .forbiddenCharacter

end Compliance.Yaml
