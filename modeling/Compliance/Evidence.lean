import Compliance.Number.Binary64
import Compliance.Text.CharSet
import Compliance.Text.Document

/-!
Evidence for a phrase: the sentences whose normal form contains the phrase's, each with the
sentences around it and a confidence that tells how the phrase was met: anywhere, or between two
word boundaries. A word boundary lies where exactly one of two neighbours is a word character.
Overlapping occurrences count.
-/

namespace Compliance

namespace Text

def isWordChar (c : Char) : Bool :=
  wordChars.contains c

def isBoundary (before after : Option Char) : Bool :=
  before.any isWordChar != after.any isWordChar

def occursIn (needle : List Char) : List Char → Bool
  | [] => needle.isEmpty
  | c :: rest => needle.isPrefixOf (c :: rest) || occursIn needle rest

/-- The needle stands at the start of `text`, with a word boundary at both its ends. -/
def standsAlone (needle : List Char) (before : Option Char) (text : List Char) : Bool :=
  isBoundary before text.head? && needle.isPrefixOf text &&
    isBoundary needle.getLast? (text.drop needle.length).head?

def occursAloneAfter (needle : List Char) (before : Option Char) : List Char → Bool
  | [] => standsAlone needle before []
  | c :: rest =>
      standsAlone needle before (c :: rest) || occursAloneAfter needle (some c) rest

def occursAlone (needle text : List Char) : Bool :=
  occursAloneAfter needle none text

end Text

structure Evidence where
  phrase : String
  sentence : String
  sentenceIndex : Nat
  context : String
  confidence : Float

/-- How a sentence contains a phrase: as a whole, as whole words, or inside a word. -/
inductive Match where
  | whole
  | words
  | part
deriving DecidableEq, Repr

def Match.confidence : Match → Float
  | .whole => 1.0
  | .words => 0.9
  | .part => 0.7

/-- A phrase whose normal form has more bytes than this is not looked up as whole words. -/
def longestWordSearch : Nat := 327672

def Match.between (needle form : String) : Option Match :=
  if !Text.occursIn needle.toList form.toList then none
  else if form = needle then some .whole
  else if needle.utf8ByteSize ≤ longestWordSearch && Text.occursAlone needle.toList form.toList
  then some .words
  else some .part

def defaultRadius : Nat := 1

/-- A sum that is too large for a word is the largest word. -/
def saturatingAdd (left right : Nat) : Nat :=
  min (left + right) (wordCount - 1)

/-- The items from the first index to the last, if that is a range of the list. One past the last
has to be a word too. -/
def slice? {α : Type} (items : List α) (first last : Nat) : Option (List α) :=
  if first ≤ last + 1 ∧ last < items.length ∧ last + 1 < wordCount then
    some ((items.drop first).take (last + 1 - first))
  else none

/-- The sentences from `radius` before the index to `radius` after it, as far as there are any. -/
def window? (radius : Nat) (sentences : List String) (index : Nat) : Option (List String) :=
  slice? sentences (index - radius) (min (saturatingAdd index radius) (sentences.length - 1))

def contextWindow (radius : Nat) (sentences : List String) (index : Nat) : String :=
  trim (" ".intercalate ((window? radius sentences index).getD []))

def Evidence.at? (radius : Nat) (phrase needle : String) (sentences : List String)
    (sentence form : String) (index : Nat) : Option Evidence :=
  (Match.between needle form).map fun found =>
    { phrase, sentence
      sentenceIndex := index
      context := contextWindow radius sentences index
      confidence := found.confidence }

def Evidence.scan (radius : Nat) (phrase : String) (sentences forms : List String) :
    List Evidence :=
  let needle := normalForm phrase
  if needle.isEmpty then []
  else ((sentences.zip forms).zipIdx).filterMap fun ((sentence, form), index) =>
    Evidence.at? radius phrase needle sentences sentence form index

def Evidence.find (radius : Nat) (phrase : String) (sentences : List String) : List Evidence :=
  Evidence.scan radius phrase sentences (sentences.map normalForm)

def Document.find (document : Document) (radius : Nat) (phrase : String) : List Evidence :=
  Evidence.scan radius phrase document.sentences document.normalForms

end Compliance
