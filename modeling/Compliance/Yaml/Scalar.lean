import Compliance.Yaml.Cursor

/-!
Scalars: plain ones, quoted ones and blocks of lines. A line break between two parts of a plain or
quoted scalar is folded: a single one becomes a space, and of several the first is left out. Every
reader takes a fuel that is at least the number of characters ahead, and gathers text in reverse.
-/

namespace Compliance.Yaml

inductive ScalarStyle where
  | plain
  | singleQuoted
  | doubleQuoted
  | literal
  | folded
deriving DecidableEq, Repr

/-- What separates two parts of a scalar: blanks on one line, or line breaks. -/
structure Gap where
  blanks : List Char := []
  broken : Bool := false
  first : List Char := []
  others : List Char := []

namespace Gap

def text (gap : Gap) : List Char :=
  if !gap.broken then gap.blanks
  else if gap.first != ['\n'] then gap.first ++ gap.others
  else if gap.others.isEmpty then [' ']
  else gap.others

def addBreak (gap : Gap) (text : List Char) : Gap :=
  if gap.broken then { gap with others := gap.others ++ text }
  else { gap with blanks := [], broken := true, first := text }

/-- Reads blanks and line breaks. A tab left of the column `indent` is refused on a new line. -/
def read (indent : Nat) : (fuel : Nat) → Gap → Cursor → Except Fault (Gap × Cursor)
  | 0, gap, cursor => .ok (gap, cursor)
  | fuel + 1, gap, cursor =>
      match cursor.peek with
      | none => .ok (gap, cursor)
      | some c =>
          if isSpaceOrTab c then
            if !gap.broken then
              read indent fuel { gap with blanks := gap.blanks ++ [c] } (cursor.skip 1)
            else if c == '\t' && cursor.column < indent then .error .tabInIndentation
            else read indent fuel gap (cursor.skip 1)
          else if isBreak c then
            let (text, next) := cursor.readBreak
            read indent fuel (gap.addBreak text) next
          else .ok (gap, cursor)

end Gap

structure ScannedScalar where
  text : String
  cursor : Cursor
  broken : Bool := false

namespace Plain

def isFlowIndicator (c : Char) : Bool :=
  c == ',' || c == '[' || c == ']' || c == '{' || c == '}'

/-- The characters up to a blank or an indicator that ends a plain scalar. `inFlow` tells whether
the scalar is inside brackets. -/
def part (inFlow : Bool) : List Char → Except Fault (List Char)
  | [] => .ok []
  | c :: rest =>
      let next := rest.head?
      if isSpaceOrTab c || isBreak c then .ok []
      else if inFlow && c == ':' && next.any (fun n => isFlowIndicator n || n == '?') then
        .error .strayColon
      else if c == ':' && isGapOrEnd next || inFlow && isFlowIndicator c then .ok []
      else (part inFlow rest).map (c :: ·)

/-- Reads parts and the gaps between them; the gap after the last part is left out. Outside of
brackets a line has to be indented by `indent` to continue the scalar. -/
def parts (inFlow : Bool) (indent : Nat) :
    (fuel : Nat) → (text : List Char) → Gap → Cursor → Except Fault (List Char × Gap × Cursor)
  | 0, text, gap, cursor => .ok (text, gap, cursor)
  | fuel + 1, text, gap, cursor =>
      if cursor.atDocumentMarker || cursor.peek == some '#' then .ok (text, gap, cursor)
      else
        match part inFlow cursor.ahead with
        | .error fault => .error fault
        | .ok [] => .ok (text, gap, cursor)
        | .ok (c :: rest) =>
            let grown := (gap.text ++ c :: rest).reverse ++ text
            let after := cursor.skip (rest.length + 1)
            match Gap.read indent fuel {} after with
            | .error fault => .error fault
            | .ok (next, resumed) =>
                if after.mark == resumed.mark then .ok (grown, {}, after)
                else if !inFlow && resumed.column < indent then .ok (grown, next, resumed)
                else parts inFlow indent fuel grown next resumed

end Plain

def scanPlain (fuel : Nat) (inFlow : Bool) (indent : Nat) (cursor : Cursor) :
    Except Fault ScannedScalar := do
  let (text, gap, last) ← Plain.parts inFlow indent (fuel + 1) [] {} cursor
  return { text := String.ofList text.reverse, cursor := last, broken := gap.broken }

namespace Quoted

def hexDigit? (c : Char) : Option Nat :=
  if c.isDigit then some (c.toNat - '0'.toNat)
  else if 'a' ≤ c ∧ c ≤ 'f' then some (c.toNat - 'a'.toNat + 10)
  else if 'A' ≤ c ∧ c ≤ 'F' then some (c.toNat - 'A'.toNat + 10)
  else none

def hexValue? (digits : List Char) : Option Nat :=
  digits.foldlM (fun value c => (hexDigit? c).map (16 * value + ·)) 0

def escapes : List (Char × Char) :=
  [('0', '\x00'), ('a', '\x07'), ('b', '\x08'), ('t', '\t'), ('\t', '\t'), ('n', '\n'),
    ('v', '\x0b'), ('f', '\x0c'), ('r', '\r'), ('e', '\x1b'), (' ', ' '), ('"', '"'), ('/', '/'),
    ('\\', '\\'), ('N', '\u0085'), ('_', '\u00a0'), ('L', '\u2028'), ('P', '\u2029')]

def numberedEscapes : List (Char × Nat) := [('x', 2), ('u', 4), ('U', 8)]

def numbered (count : Nat) (text : List Char) : Option Char := do
  let digits := text.take count
  let point ← hexValue? digits
  if digits.length = count ∧ point.isValidChar then some (Char.ofNat point) else none

def escape : List Char → Except Fault (Char × Nat)
  | [] => .error .badEscape
  | letter :: rest =>
      match escapes.lookup letter, numberedEscapes.lookup letter with
      | some c, _ => .ok (c, 1)
      | none, none => .error .badEscape
      | none, some count =>
          match numbered count rest with
          | some c => .ok (c, count + 1)
          | none => .error .badEscape

inductive PartEnd where
  | closed
  | gap
  | escapedBreak

def part (single : Bool) : (fuel : Nat) → (text : List Char) → Cursor →
    Except Fault (List Char × PartEnd × Cursor)
  | 0, _, _ => .error .unclosedQuote
  | fuel + 1, text, cursor =>
      match cursor.ahead with
      | [] => .ok (text, .gap, cursor)
      | c :: rest =>
          if isSpaceOrTab c || isBreak c then .ok (text, .gap, cursor)
          else if single then
            if c != '\'' then part single fuel (c :: text) (cursor.skip 1)
            else if rest.head? == some '\'' then part single fuel (c :: text) (cursor.skip 2)
            else .ok (text, .closed, cursor.skip 1)
          else if c == '"' then .ok (text, .closed, cursor.skip 1)
          else if c != '\\' then part single fuel (c :: text) (cursor.skip 1)
          else if rest.head?.any isBreak then
            .ok (text, .escapedBreak, (cursor.skip 1).skipBreak)
          else
            match escape rest with
            | .error fault => .error fault
            | .ok (read, length) => part single fuel (read :: text) (cursor.skip (length + 1))

def parts (single : Bool) : (fuel : Nat) → (text : List Char) → Cursor →
    Except Fault (List Char × Cursor)
  | 0, _, _ => .error .unclosedQuote
  | fuel + 1, text, cursor =>
      if cursor.atDocumentMarker || cursor.ahead.isEmpty then .error .unclosedQuote
      else do
        let (grown, ending, after) ← part single (fuel + 1) text cursor
        match ending with
        | .closed => return (grown, after)
        | .gap =>
            let (gap, next) ← Gap.read 0 fuel {} after
            parts single fuel (gap.text.reverse ++ grown) next
        | .escapedBreak =>
            let (gap, next) ← Gap.read 0 fuel { broken := true } after
            parts single fuel (gap.text.reverse ++ grown) next

end Quoted

def scanQuoted (fuel : Nat) (single : Bool) (cursor : Cursor) : Except Fault ScannedScalar := do
  let (text, after) ← Quoted.parts single (fuel + 1) [] (cursor.skip 1)
  return { text := String.ofList text.reverse, cursor := after }

namespace Block

inductive Chomping where
  | strip
  | clip
  | keep
deriving DecidableEq, Repr

structure Header where
  chomping : Chomping := .clip
  /-- Zero when the indentation is to be found out. -/
  increment : Nat := 0

def chomping? (c : Option Char) : Option Chomping :=
  if c == some '+' then some .keep else if c == some '-' then some .strip else none

def increment (cursor : Cursor) : Except Fault (Nat × Cursor) :=
  match cursor.peek with
  | none => .ok (0, cursor)
  | some c =>
      if c == '0' then .error .badBlockHeader
      else if c.isDigit then .ok (c.toNat - '0'.toNat, cursor.skip 1)
      else .ok (0, cursor)

def indicators (cursor : Cursor) : Except Fault (Header × Cursor) :=
  match chomping? cursor.peek with
  | some chomping => do
      let (increment, after) ← increment (cursor.skip 1)
      return ({ chomping, increment }, after)
  | none => do
      let (increment, after) ← increment cursor
      match increment, chomping? after.peek with
      | 0, _ | _, none => return ({ increment }, after)
      | increment, some chomping => return ({ chomping, increment }, after.skip 1)

def header (cursor : Cursor) : Except Fault (Header × Cursor) := do
  let (read, after) ← indicators cursor
  let last := (after.skipWhile isSpaceOrTab).skipComment
  if isBreakOrEnd last.peek then return (read, last.skipBreak) else .error .badBlockHeader

/-- Reads indentation and empty lines. While `indent` is zero, all spaces count as indentation;
`deepest` is the greatest column met. -/
def breaks (indent : Nat) : (fuel : Nat) → (deepest : Nat) → (text : List Char) → Cursor →
    Except Fault (Nat × List Char × Cursor)
  | 0, deepest, text, cursor => .ok (deepest, text, cursor)
  | fuel + 1, deepest, text, cursor =>
      let spaces := (cursor.ahead.takeWhile (· == ' ')).length
      let indented :=
        cursor.skip (if indent = 0 then spaces else min spaces (indent - cursor.column))
      let deepest := max deepest indented.column
      if (indent = 0 || indented.column < indent) && indented.peek == some '\t' then
        .error .tabInIndentation
      else if indented.peek.any isBreak then
        let (read, next) := indented.readBreak
        breaks indent fuel deepest (text ++ read) next
      else .ok (deepest, text, indented)

structure Lines where
  text : List Char := []
  lineBreak : List Char := []
  trailing : List Char := []
  indented : Bool := false

/-- Adds a line. In a folded block the break between two lines that both start without a blank is
folded. -/
def Lines.add (lines : Lines) (literal : Bool) (line lineBreak trailing : List Char) : Lines :=
  let indented := line.head?.any isSpaceOrTab
  let joint :=
    if !literal && lines.lineBreak == ['\n'] && !lines.indented && !indented then
      (if lines.trailing.isEmpty then [' '] else [])
    else lines.lineBreak
  { text := (joint ++ lines.trailing ++ line).reverse ++ lines.text
    lineBreak, trailing, indented }

def Lines.chomped (lines : Lines) : Chomping → List Char
  | .strip => lines.text.reverse
  | .clip => lines.text.reverse ++ lines.lineBreak
  | .keep => lines.text.reverse ++ lines.lineBreak ++ lines.trailing

def body (literal : Bool) (indent : Nat) : (fuel : Nat) → Lines → Cursor →
    Except Fault (Lines × Cursor)
  | 0, lines, cursor => .ok (lines, cursor)
  | fuel + 1, lines, cursor =>
      if cursor.column != indent || cursor.ahead.isEmpty then .ok (lines, cursor)
      else do
        let (line, lineEnd) := cursor.span fun c => !isBreak c
        let (lineBreak, next) := lineEnd.readBreak
        let (_, trailing, resumed) ← breaks indent (fuel + 1) 0 [] next
        body literal indent fuel (lines.add literal line lineBreak trailing) resumed

end Block

/-- Reads a block scalar from its indicator on; `parent` is the indentation around it. -/
def scanBlock (fuel : Nat) (literal : Bool) (parent : Int) (cursor : Cursor) :
    Except Fault ScannedScalar := do
  let (header, start) ← Block.header (cursor.skip 1)
  let given := if header.increment = 0 then 0 else parent.toNat + header.increment
  let (deepest, trailing, first) ← Block.breaks given (fuel + 1) 0 [] start
  let indent := if given = 0 then max (max deepest (parent + 1).toNat) 1 else given
  let (lines, last) ← Block.body literal indent (fuel + 1) { trailing } first
  return { text := String.ofList (lines.chomped header.chomping), cursor := last }

end Compliance.Yaml
