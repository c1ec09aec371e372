import Compliance.Text.Blank
import Compliance.Text.Lower

/-!
A document prepared for the search: its sentences and, sentence by sentence, their normal forms.
Sentences are the stretches between full stops, exclamation and question marks, trimmed, with the
blank ones left out; an abbreviation ends one like any other full stop. The normal form of a text has
its words in lower case, with one space between two of them. Phrases and sentences are compared by
their normal forms.
-/

namespace Compliance.Text

def normal (text : List Char) : List Char :=
  List.intercalate [' '] ((words text).map lower)

def isTerminator (c : Char) : Bool :=
  c == '.' || c == '!' || c == '?'

def sentences (text : List Char) : List (List Char) :=
  ((text.splitOnP isTerminator).map trimmed).filter (fun sentence => !sentence.isEmpty)

end Compliance.Text

namespace Compliance

def normalForm (text : String) : String :=
  String.ofList (Text.normal text.toList)

def splitSentences (text : String) : List String :=
  (Text.sentences text.toList).map String.ofList

structure Document where
  sentences : List String
  normalForms : List String
  normalForms_eq : normalForms = sentences.map normalForm := by rfl

def Document.ofText (text : String) : Document :=
  let sentences := splitSentences text
  { sentences, normalForms := sentences.map normalForm }

end Compliance
