import Compliance.Decode

/-!
How the verdict of a rule is to be read. A kind is carried along and decides nothing.
-/

namespace Compliance

inductive RuleKind where
  | mandatoryPrerequisite
  | mandatoryProcedure
  | discretionaryExclusion
  | interpretiveGuidance
deriving DecidableEq, Repr

namespace RuleKind

def all : List RuleKind :=
  [mandatoryPrerequisite, mandatoryProcedure, discretionaryExclusion, interpretiveGuidance]

def name : RuleKind → String
  | mandatoryPrerequisite => "mandatory_prerequisite"
  | mandatoryProcedure => "mandatory_procedure"
  | discretionaryExclusion => "discretionary_exclusion"
  | interpretiveGuidance => "interpretive_guidance"

def spellings : List (String × RuleKind) :=
  all.flatMap fun kind => [(kind.name.toUpper, kind), (kind.name, kind)]

def decode : Decoder RuleKind := Decode.variant spellings

def toJson (kind : RuleKind) : Json := .string kind.name

end RuleKind

end Compliance
