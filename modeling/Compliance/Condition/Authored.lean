import Compliance.Condition.Structure
import Compliance.Decode

/-!
Conditions in the form in which rules are written. A node gives an operator with its entries, or
with an antecedent and a consequent, or else an element with its phrases; an entry is a bare phrase
or a node. Compiling such a node gives a sound condition or the reason why there is none.
-/

namespace Compliance

structure Authored where
  operator : Option String := none
  element : Option String := none
  options : List String := []
  required : Option Bool := none
  entries : List (String ⊕ Authored) := []
  antecedent : Option Authored := none
  consequent : Option Authored := none
deriving Inhabited

namespace Authored

def barePhrases (entries : List (String ⊕ Authored)) : List String :=
  entries.filterMap Sum.getLeft?

/-- A required element for one bare phrase, which is its name too. -/
def phraseElement (phrase : String) : Condition :=
  .element { name := phrase, phrases := [phrase], required := true }

def withImplicitElement (phrases : List String) (nodes : List Condition) : List Condition :=
  if phrases.isEmpty then nodes else .element (Element.implicit phrases) :: nodes

def conjunction (phrases : List String) (nodes : List Condition) : Condition :=
  .allOf (phrases.map phraseElement ++ nodes)

def disjunction (phrases : List String) (nodes : List Condition) : Condition :=
  if nodes.isEmpty then .anyPhrase phrases else .anyOf (withImplicitElement phrases nodes)

def exclusion (phrases : List String) (nodes : List Condition) : Condition :=
  .noneOf (withImplicitElement phrases nodes)

def sound (condition : Condition) : Except ConditionFault Condition :=
  match condition.check with
  | .ok () => .ok condition
  | .error fault => .error fault

mutual

def compile : Authored → Except ConditionFault Condition
  | ⟨none, none, _, _, _, _, _⟩ => .error .undeclared
  | ⟨none, some name, options, required, _, _, _⟩ =>
      sound (.element { name, phrases := options, required := required.getD true })
  | ⟨some spelling, _, _, _, entries, antecedent, consequent⟩ =>
      match Operator.ofText? spelling with
      | none => .error (.unsupportedOperator spelling)
      | some .conjunction => do sound (conjunction (barePhrases entries) (← compileNodes entries))
      | some .disjunction => do sound (disjunction (barePhrases entries) (← compileNodes entries))
      | some .exclusion => do sound (exclusion (barePhrases entries) (← compileNodes entries))
      | some .implication =>
          match antecedent, consequent with
          | none, _ => .error .noAntecedent
          | some _, none => .error .noConsequent
          | some premise, some conclusion => do
              sound (.implies (← premise.compile) (← conclusion.compile))

def compileNodes : List (String ⊕ Authored) → Except ConditionFault (List Condition)
  | [] => .ok []
  | .inl _ :: rest => compileNodes rest
  | .inr node :: rest => do
      let condition ← node.compile
      return condition :: (← compileNodes rest)

end

def decodeEntry (node : Decoder Authored) : Decoder (String ⊕ Authored)
  | _, .string phrase => .ok (.inl phrase)
  | layer, other =>
      match node layer other with
      | .ok read => .ok (.inr read)
      | .error _ => .error (.noVariant "ConditionEntry")

def decodeWithin : (depth : Nat) → Decoder Authored
  | 0, _, value => .error (.wrongType value "struct ConditionSpec")
  | depth + 1, layer, value =>
      Decode.record "ConditionSpec"
        (Authored.mk <$> Fields.optional "operator" Decode.text
          <*> Fields.optional "element" Decode.text
          <*> Fields.field ["options", "phrases"] (Decode.list Decode.text) (some [])
          <*> Fields.optional "required" Decode.bool
          <*> Fields.defaulted "conditions" (Decode.list (decodeEntry (decodeWithin depth))) []
          <*> Fields.optional "antecedent" (decodeWithin depth)
          <*> Fields.optional "consequent" (decodeWithin depth))
        layer value

/-- The height of the value bounds the depth of its nodes. -/
def decode : Decoder Authored := fun layer value =>
  decodeWithin value.height layer value

mutual

def toJson : Authored → Json
  | ⟨operator, element, options, required, entries, antecedent, consequent⟩ =>
      .object ((operator.toList.map fun text => ("operator", .string text)) ++
        (element.toList.map fun text => ("element", .string text)) ++
        (if options.isEmpty then [] else [("options", .array (options.map .string))]) ++
        (required.toList.map fun value => ("required", .bool value)) ++
        (if entries.isEmpty then [] else [("conditions", .array (entriesToJson entries))]) ++
        memberToJson "antecedent" antecedent ++ memberToJson "consequent" consequent)

def entriesToJson : List (String ⊕ Authored) → List Json
  | [] => []
  | .inl phrase :: rest => .string phrase :: entriesToJson rest
  | .inr node :: rest => node.toJson :: entriesToJson rest

def memberToJson (key : String) : Option Authored → List (String × Json)
  | none => []
  | some node => [(key, node.toJson)]

end

end Authored

namespace Condition

mutual

def toAuthored : Condition → Authored
  | element leaf =>
      { element := some leaf.name, options := leaf.phrases, required := some leaf.required }
  | allOf children =>
      { operator := some Operator.conjunction.name, entries := toEntries children }
  | anyPhrase phrases =>
      { operator := some Operator.disjunction.name, entries := phrases.map .inl }
  | anyOf children =>
      { operator := some Operator.disjunction.name, entries := toEntries children }
  | noneOf children =>
      { operator := some Operator.exclusion.name, entries := toEntries children }
  | implies antecedent consequent =>
      { operator := some Operator.implication.name
        antecedent := some antecedent.toAuthored
        consequent := some consequent.toAuthored }

def toEntries : List Condition → List (String ⊕ Authored)
  | [] => []
  | child :: rest => .inr child.toAuthored :: toEntries rest

end

def toJson (condition : Condition) : Json := condition.toAuthored.toJson

def decode : Decoder Condition := fun layer value =>
  match Authored.decode layer value with
  | .error error => .error error
  | .ok authored => authored.compile.mapError fun fault => .refused fault.message

end Condition

end Compliance
