import Compliance.Proofs.Condition.Decoding
import Compliance.Proofs.Condition.Faults
import Compliance.Proofs.Json.RoundTrip

/-!
The written form of condition trees. Sound trees are got back from it, and it is nested as deep as
the tree says.
-/

namespace Compliance

theorem Authored.numberless_toJson (authored : Authored) : authored.toJson.Numberless := by
  induction authored using Authored.induction with
  | node authored inEntries inAntecedent inConsequent =>
      rw [toJson_eq]
      refine numberless_presentMembers ?_
      intro key value member
      simp only [fields, List.mem_cons, Prod.mk.injEq, List.not_mem_nil, or_false] at member
      rcases member with ⟨_, written⟩ | ⟨_, written⟩ | ⟨_, written⟩ | ⟨_, written⟩ | ⟨_, written⟩ |
        ⟨_, written⟩ | ⟨_, written⟩
      · exact numberless_optional written fun text _ => .string text
      · exact numberless_optional written fun text _ => .string text
      · exact numberless_list written fun text _ => .string text
      · exact numberless_optional written fun answer _ => .bool answer
      · refine numberless_list written ?_
        rintro (phrase | child) listed
        · exact .string phrase
        · exact inEntries child listed
      · exact numberless_optional written inAntecedent
      · exact numberless_optional written inConsequent

namespace Condition

/-- How many lists and objects are open at once where the written form is deepest. -/
def nesting : Condition → Nat
  | element _ | anyPhrase _ => 2
  | allOf children => childNesting children + 2
  | anyOf children => childNesting children + 2
  | noneOf children => childNesting children + 2
  | implies antecedent consequent => max antecedent.nesting consequent.nesting + 1
where
  childNesting : List Condition → Nat
    | [] => 0
    | child :: rest => max child.nesting (childNesting rest)

theorem nesting_pos (condition : Condition) : 0 < condition.nesting := by
  cases condition <;> simp [nesting]

theorem barePhrases_toEntries (children : List Condition) :
    Authored.barePhrases (toEntries children) = [] := by
  induction children with
  | nil => rfl
  | cons child rest ih => exact ih

theorem compileNodes_phrases (phrases : List String) :
    Authored.compileNodes (phrases.map .inl) = .ok [] := by
  induction phrases with
  | nil => rfl
  | cons phrase rest ih => exact ih

theorem barePhrases_phrases (phrases : List String) :
    Authored.barePhrases (phrases.map .inl) = phrases := by
  induction phrases with
  | nil => rfl
  | cons phrase rest ih => exact congrArg (List.cons phrase) ih

/-- What a tree is read as from its written form: itself, or the reason why it is turned down. -/
def reread (condition : Condition) : Except ConditionFault Condition :=
  match condition.check with
  | .ok () => .ok condition
  | .error fault => .error fault.rewritten

theorem sound_eq_reread {condition : Condition}
    (kept : ∀ fault, condition.check = .error fault → fault.rewritten = fault) :
    Authored.sound condition = condition.reread := by
  rw [Authored.sound, reread]
  cases checked : condition.check with
  | ok _ => rfl
  | error fault => simp only [kept fault checked]

theorem compileNodes_toEntries {children : List Condition}
    (back : ∀ child ∈ children, child.toAuthored.compile = child.reread) :
    Authored.compileNodes (toEntries children) = match checkSiblings children with
      | .ok () => .ok children
      | .error fault => .error fault.rewritten := by
  induction children with
  | nil => rfl
  | cons child rest ih =>
      obtain ⟨first, others⟩ := List.forall_mem_cons.mp back
      rw [toEntries, Authored.compileNodes, first, ih others, reread, checkSiblings]
      cases child.check <;> cases checkSiblings rest <;> rfl

theorem compile_of_children {children : List Condition} {condition : Condition}
    (back : ∀ child ∈ children, child.toAuthored.compile = child.reread)
    (checked : condition.check = checkSiblings children)
    {join : List String → List Condition → Condition} (joined : join [] children = condition) :
    (Authored.compileNodes (toEntries children) >>= fun nodes =>
      Authored.sound (join (Authored.barePhrases (toEntries children)) nodes)) =
        condition.reread := by
  rw [compileNodes_toEntries back, barePhrases_toEntries, reread, checked]
  cases passed : checkSiblings children with
  | error fault => rfl
  | ok _ =>
      change Authored.sound (join [] children) = .ok condition
      rw [joined, Authored.sound, checked, passed]

theorem compile_toAuthored (condition : Condition) :
    condition.toAuthored.compile = condition.reread := by
  induction condition using Condition.induction with
  | element leaf =>
      rw [toAuthored, Authored.compile]
      exact sound_eq_reread fun _ => Element.rewritten_check
  | anyPhrase phrases =>
      rw [toAuthored, Authored.compile_disjunction rfl (by rfl), compileNodes_phrases,
        barePhrases_phrases]
      exact sound_eq_reread fun _ => rewritten_checkPhrases
  | allOf children ih =>
      rw [toAuthored, Authored.compile_conjunction rfl (by rfl)]
      cases children with
      | nil => rfl
      | cons child rest =>
          refine compile_of_children ih ?_ rfl
          exact checkChildren_cons _ child rest
  | anyOf children ih =>
      rw [toAuthored, Authored.compile_disjunction rfl (by rfl)]
      cases children with
      | nil => rfl
      | cons child rest =>
          refine compile_of_children ih ?_ rfl
          exact checkChildren_cons _ child rest
  | noneOf children ih =>
      rw [toAuthored, Authored.compile_exclusion rfl (by rfl)]
      cases children with
      | nil => rfl
      | cons child rest =>
          refine compile_of_children ih ?_ rfl
          exact checkChildren_cons _ child rest
  | implies antecedent consequent ihAntecedent ihConsequent =>
      rw [toAuthored, Authored.compile_implication rfl (by rfl)]
      simp only [ihAntecedent, ihConsequent, reread, check]
      cases first : antecedent.check with
      | error fault => rfl
      | ok _ =>
          cases second : consequent.check with
          | error fault => rfl
          | ok _ =>
              change Authored.sound (implies antecedent consequent) = _
              simp only [Authored.sound, check, first, second]

theorem Sound.reread_eq {condition : Condition} (sound : condition.Sound) :
    condition.reread = .ok condition := by
  rw [reread, (check_eq_ok_iff condition).mpr sound]

theorem decode_toJson (condition : Condition) (layer : Layer) :
    decode layer condition.toJson.sorted =
      condition.reread.mapError fun fault => .refused fault.message := by
  rw [decode, toJson, Authored.decode_toJson]
  simp only [compile_toAuthored]

theorem Sound.decode_toJson {condition : Condition} (sound : condition.Sound) (layer : Layer) :
    decode layer condition.toJson.sorted = .ok condition := by
  rw [Condition.decode_toJson, sound.reread_eq]
  rfl

theorem height_strings (texts : List String) : Json.itemsHeight (texts.map .string) = 0 := by
  apply Nat.le_zero.mp
  rw [Json.itemsHeight_le_iff]
  intro item listed
  obtain ⟨text, _, rfl⟩ := List.mem_map.mp listed
  exact Nat.le_refl 0

theorem height_phrases (phrases : List String) :
    Json.itemsHeight (Authored.entriesToJson (phrases.map .inl)) = 0 := by
  rw [Authored.entriesToJson_eq_map, List.map_map]
  exact height_strings phrases

theorem height_children {children : List Condition}
    (back : ∀ child ∈ children, child.toJson.height = child.nesting) :
    Json.itemsHeight (Authored.entriesToJson (toEntries children)) =
      nesting.childNesting children := by
  induction children with
  | nil => rfl
  | cons child rest ih =>
      obtain ⟨first, others⟩ := List.forall_mem_cons.mp back
      rw [toEntries, Authored.entriesToJson, Json.itemsHeight, ih others, nesting.childNesting,
        ← first, toJson]

theorem height_connective (operator : Operator) {children : List Condition}
    (present : children ≠ []) (back : ∀ child ∈ children, child.toJson.height = child.nesting) :
    (Authored.toJson { operator := some operator.name, entries := toEntries children }).height =
      nesting.childNesting children + 2 := by
  have listed : (toEntries children).isEmpty = false := by
    cases children with
    | nil => exact absurd rfl present
    | cons child rest => rfl
  simp [Authored.toJson, Authored.memberToJson, listed, Json.height, Json.membersHeight,
    height_children back]

theorem Sound.height_toJson {condition : Condition} (sound : condition.Sound) :
    condition.toJson.height = condition.nesting := by
  induction condition using Condition.induction with
  | element leaf =>
      rw [Sound] at sound
      have listed : leaf.phrases.isEmpty = false := by simpa using sound.2.1
      simp [toJson, toAuthored, Authored.toJson, Authored.memberToJson, listed, Json.height,
        Json.membersHeight, height_strings, nesting]
  | anyPhrase phrases =>
      rw [Sound] at sound
      have listed : phrases.isEmpty = false := by simpa using sound.1
      simp [toJson, toAuthored, Authored.toJson, Authored.memberToJson, listed, Json.height,
        Json.membersHeight, height_phrases, nesting]
  | allOf children ih =>
      rw [Sound] at sound
      exact height_connective .conjunction sound.1 fun child member =>
        ih child member (sound.2 child member)
  | anyOf children ih =>
      rw [Sound] at sound
      exact height_connective .disjunction sound.1 fun child member =>
        ih child member (sound.2 child member)
  | noneOf children ih =>
      rw [Sound] at sound
      exact height_connective .exclusion sound.1 fun child member =>
        ih child member (sound.2 child member)
  | implies antecedent consequent ihAntecedent ihConsequent =>
      rw [Sound] at sound
      rw [nesting, ← ihAntecedent sound.1, ← ihConsequent sound.2]
      simp [toJson, toAuthored, Authored.toJson, Authored.memberToJson, Json.height,
        Json.membersHeight]

def negated (condition : Condition) : Nat → Condition
  | 0 => condition
  | count + 1 => .noneOf [condition.negated count]

theorem Sound.negated {condition : Condition} (sound : condition.Sound) (count : Nat) :
    (condition.negated count).Sound := by
  induction count with
  | zero => exact sound
  | succ count ih =>
      rw [Condition.negated, Sound]
      exact ⟨List.cons_ne_nil _ _, List.forall_mem_singleton.mpr ih⟩

theorem nesting_negated (condition : Condition) (count : Nat) :
    (condition.negated count).nesting = condition.nesting + 2 * count := by
  induction count with
  | zero => rfl
  | succ count ih =>
      rw [negated, nesting, nesting.childNesting, nesting.childNesting, ih]
      omega

end Condition

end Compliance
