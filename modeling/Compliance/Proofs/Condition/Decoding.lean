import Compliance.Proofs.Condition.Induction
import Compliance.Proofs.Decode.Held

/-!
Nodes in the authored form are decoded from what they are written as.
-/

namespace Compliance.Authored

def fields (authored : Authored) : List (String × Option Json) :=
  [("operator", authored.operator.map .string), ("element", authored.element.map .string),
    ("options",
      if authored.options.isEmpty then none else some (.array (authored.options.map .string))),
    ("required", authored.required.map .bool),
    ("conditions", if authored.entries.isEmpty then none
      else some (.array (authored.entries.map (Sum.elim .string toJson)))),
    ("antecedent", authored.antecedent.map toJson), ("consequent", authored.consequent.map toJson)]

theorem fields_distinct (authored : Authored) : (authored.fields.map Prod.fst).Nodup := by
  change ["operator", "element", "options", "required", "conditions", "antecedent",
    "consequent"].Nodup
  decide

theorem entriesToJson_eq_map (entries : List (String ⊕ Authored)) :
    entriesToJson entries = entries.map (Sum.elim .string toJson) := by
  induction entries with
  | nil => rfl
  | cons entry rest ih => cases entry <;> rw [entriesToJson, ih] <;> rfl

theorem memberToJson_eq (key : String) (node : Option Authored) :
    memberToJson key node = (node.map toJson).toList.map fun value => (key, value) := by
  cases node <;> rfl

theorem toJson_eq (authored : Authored) :
    authored.toJson = .object (presentMembers authored.fields) := by
  obtain ⟨operator, element, options, required, entries, antecedent, consequent⟩ := authored
  rw [toJson, memberToJson_eq, memberToJson_eq, entriesToJson_eq_map, fields]
  simp only [presentMembers, List.flatMap_cons, List.flatMap_nil, Option.toList_map, List.map_map]
  cases options.isEmpty <;> cases entries.isEmpty <;>
    simp [Function.comp_def]

theorem toJson_sorted (authored : Authored) : ∃ members, authored.toJson.sorted = .object members :=
  ⟨_, by rw [toJson_eq, Json.sorted]⟩

theorem decodeEntry_toJson {node : Decoder Authored} {layer : Layer} (entry : String ⊕ Authored)
    (back : ∀ child, entry = .inr child → node layer child.toJson.sorted = .ok child) :
    decodeEntry node layer (Sum.elim Json.string toJson entry).sorted = .ok entry := by
  cases entry with
  | inl phrase => rfl
  | inr child =>
      have decoded := back child rfl
      obtain ⟨members, same⟩ := child.toJson_sorted
      rw [Sum.elim_inr]
      rw [same] at decoded ⊢
      rw [decodeEntry, decoded]
      simp

theorem decode_optional_toJson {node : Decoder Authored} {layer : Layer} {child : Authored}
    (back : node layer child.toJson.sorted = .ok child) :
    Decode.option node layer child.toJson.sorted = .ok (some child) := by
  obtain ⟨members, same⟩ := child.toJson_sorted
  exact Decode.option_of_ok (by simp [same]) back

theorem decodeWithin_toJson (authored : Authored) (layer : Layer) (depth : Nat)
    (bound : authored.toJson.sorted.height ≤ depth) :
    decodeWithin depth layer authored.toJson.sorted = .ok authored := by
  induction authored using Authored.induction generalizing depth with
  | node authored inEntries inAntecedent inConsequent =>
      obtain ⟨operator, element, options, required, entries, antecedent, consequent⟩ := authored
      obtain ⟨inOrder, same, holds⟩ := sorted_presentMembers (fields_distinct
        ⟨operator, element, options, required, entries, antecedent, consequent⟩)
      rw [toJson_eq, same] at bound ⊢
      obtain ⟨depth, rfl⟩ : ∃ inner, depth = inner + 1 :=
        Nat.exists_eq_succ_of_ne_zero (Nat.ne_zero_of_lt bound)
      have inside {names : List String} {value : Json}
          (held : HeldUnder names inOrder (some value)) : value.height ≤ depth :=
        Nat.le_of_lt_succ (Nat.lt_of_lt_of_le (Json.height_of_mem_members held.mem) bound)
      rw [decodeWithin]
      refine Fields.record_of_named (Fields.named_seq (Fields.named_seq (Fields.named_seq
        (Fields.named_seq (Fields.named_seq (Fields.named_seq (Fields.named_map Authored.mk
        ?operator) ?element) ?options) ?required) ?conditions) ?antecedent) ?consequent)
      case operator =>
        exact Fields.named_optional (holds ["operator"] _ rfl) fun _ _ => rfl
      case element =>
        exact Fields.named_optional (holds ["element"] _ rfl) fun _ _ => rfl
      case options =>
        exact Fields.named_list (holds ["options", "phrases"] _ rfl) fun _ _ => rfl
      case required =>
        exact Fields.named_optional (holds ["required"] _ rfl) fun _ _ => rfl
      case conditions =>
        refine Fields.named_list (holds ["conditions"] _ rfl) ?_
        intro entry listed
        refine decodeEntry_toJson entry ?_
        rintro child rfl
        refine inEntries child listed depth ?_
        have held := holds ["conditions"] _ rfl
        rw [if_neg (by simpa using List.ne_nil_of_mem listed)] at held
        refine Nat.le_of_lt (Nat.lt_of_lt_of_le (Json.height_of_mem_items ?_) (inside held))
        rw [Json.sortedItems_eq_map, List.map_map]
        exact List.mem_map_of_mem listed
      case antecedent =>
        refine Fields.named_optional (holds ["antecedent"] _ rfl) ?_
        intro premise written
        have held := holds ["antecedent"] _ rfl
        rw [written] at held
        exact decode_optional_toJson (inAntecedent premise written depth (inside held))
      case consequent =>
        refine Fields.named_optional (holds ["consequent"] _ rfl) ?_
        intro conclusion written
        have held := holds ["consequent"] _ rfl
        rw [written] at held
        exact decode_optional_toJson (inConsequent conclusion written depth (inside held))

theorem decode_toJson (authored : Authored) (layer : Layer) :
    decode layer authored.toJson.sorted = .ok authored :=
  decodeWithin_toJson authored layer _ (Nat.le_refl _)

end Compliance.Authored
