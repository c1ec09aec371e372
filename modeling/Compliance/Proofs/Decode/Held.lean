import Compliance.Decode
import Compliance.Proofs.Except
import Compliance.Proofs.Json.Parts

/-!
Reading records from the members they were written as, in whatever order these stand. A field looks
only at what the object holds under its names.
-/

namespace Compliance

open scoped List

/-- Under any of the names the object holds this value, and then under the first, or nothing. -/
def HeldUnder (names : List String) (members : List (String × Json)) (held : Option Json) : Prop :=
  members.filter (fun member => names.contains member.1) =
    held.toList.map fun value => (names.headD "", value)

namespace HeldUnder

variable {names : List String} {members : List (String × Json)} {held : Option Json}

theorem perm {others : List (String × Json)} (holds : HeldUnder names members held)
    (same : others ~ members) : HeldUnder names others held := by
  have kept := same.filter fun member => names.contains member.1
  rw [holds] at kept
  cases held with
  | none => exact kept.eq_nil
  | some value => exact List.perm_singleton.mp kept

theorem sorted (holds : HeldUnder names members held) :
    HeldUnder names (members.map fun member => (member.1, member.2.sorted))
      (held.map Json.sorted) := by
  have mapped := congrArg (List.map fun member => (member.1, member.2.sorted)) holds
  rw [HeldUnder, List.filter_map]
  refine mapped.trans ?_
  cases held <;> rfl

theorem mem {value : Json} (holds : HeldUnder names members (some value)) :
    (names.headD "", value) ∈ members := by
  have kept : (names.headD "", value) ∈
      members.filter (fun member => names.contains member.1) := by
    rw [holds]
    exact List.mem_singleton_self _
  exact (List.mem_filter.mp kept).1

theorem get?_eq {name : String} {value : Json} (holds : HeldUnder [name] members (some value)) :
    Keyed.get? name members = some value := by
  have kept : members.filter (fun member => [name].contains member.1) = [(name, value)] := holds
  rw [Keyed.get?_eq_head?, kept]
  rfl

end HeldUnder

def presentMembers (fields : List (String × Option Json)) : List (String × Json) :=
  fields.flatMap fun field => field.2.toList.map fun value => (field.1, value)

theorem presentMembers_cons (key : String) (value : Option Json)
    (rest : List (String × Option Json)) :
    presentMembers ((key, value) :: rest) =
      (value.toList.map fun value => (key, value)) ++ presentMembers rest :=
  rfl

theorem filter_presentMembers (keep : String → Bool) (fields : List (String × Option Json)) :
    (presentMembers fields).filter (fun member => keep member.1) =
      presentMembers (fields.filter fun field => keep field.1) := by
  induction fields with
  | nil => rfl
  | cons field rest ih =>
      obtain ⟨key, value⟩ := field
      rw [presentMembers_cons, List.filter_append, ih, List.filter_cons]
      cases kept : keep key <;> cases value <;> simp [kept, presentMembers_cons]

theorem holds_presentMembers {fields : List (String × Option Json)} {names : List String}
    {held : Option Json}
    (only : fields.filter (fun field => names.contains field.1) = [(names.headD "", held)]) :
    HeldUnder names (presentMembers fields) held := by
  rw [HeldUnder, filter_presentMembers names.contains, only, presentMembers_cons]
  exact List.append_nil _

theorem keys_presentMembers (fields : List (String × Option Json)) :
    (Keyed.keys (presentMembers fields)).Sublist (fields.map Prod.fst) := by
  induction fields with
  | nil => exact List.Sublist.refl _
  | cons field rest ih =>
      obtain ⟨key, value⟩ := field
      cases value with
      | none => exact ih.cons key
      | some value => exact ih.cons_cons key

theorem numberless_presentMembers {fields : List (String × Option Json)}
    (inner : ∀ key value, (key, some value) ∈ fields → value.Numberless) :
    (Json.object (presentMembers fields)).Numberless := by
  refine Json.Numberless.object _ ?_
  intro member present
  obtain ⟨⟨key, held⟩, listed, written⟩ := List.mem_flatMap.mp present
  obtain ⟨value, isHeld, rfl⟩ := List.mem_map.mp written
  rw [Option.mem_toList] at isHeld
  change held = some value at isHeld
  exact inner key value (isHeld ▸ listed)

theorem numberless_optional {α : Type} {written : α → Json} {held : Option α} {value : Json}
    (given : some value = held.map written)
    (inner : ∀ present, held = some present → (written present).Numberless) :
    value.Numberless := by
  obtain ⟨present, isHeld, rfl⟩ := Option.map_eq_some_iff.mp given.symm
  exact inner present isHeld

theorem numberless_list {α : Type} {written : α → Json} {items : List α} {value : Json}
    (given : some value = if items.isEmpty then none else some (.array (items.map written)))
    (inner : ∀ item ∈ items, (written item).Numberless) : value.Numberless := by
  split at given
  · simp at given
  · rw [Option.some.inj given]
    refine .array _ ?_
    intro _ listed
    obtain ⟨item, member, rfl⟩ := List.mem_map.mp listed
    exact inner item member

theorem sorted_presentMembers {fields : List (String × Option Json)}
    (distinct : (fields.map Prod.fst).Nodup) :
    ∃ inOrder, (Json.object (presentMembers fields)).sorted = .object inOrder ∧
      ∀ names held, fields.filter (fun field => names.contains field.1) =
        [(names.headD "", held)] → HeldUnder names inOrder (held.map Json.sorted) := by
  obtain ⟨inOrder, same, reordered⟩ :=
    Json.sorted_object (distinct.sublist (keys_presentMembers fields))
  exact ⟨inOrder, same, fun names held only => (holds_presentMembers only).sorted.perm reordered⟩

namespace Fields

variable {α β : Type} {layer : Layer} {members : List (String × Json)}

theorem named_of_held {names : List String} {decoder : Decoder α} {absent : Option α} {value : Json}
    (holds : HeldUnder names members (some value)) :
    (field names decoder absent).named layer members =
      (decoder layer value).mapError (.atKey (names.headD "")) := by
  have kept : members.filter (fun member => names.contains member.1) =
      [(names.headD "", value)] := holds
  simp only [field, kept]
  cases decoder layer value <;> rfl

theorem named_field_of_held {names : List String} {decoder : Decoder α} {absent : Option α}
    {value : Json} {read : α} (holds : HeldUnder names members (some value))
    (decoded : decoder layer value = .ok read) :
    (field names decoder absent).named layer members = .ok read := by
  rw [named_of_held holds, decoded]
  rfl

theorem named_field_of_nothing {names : List String} {decoder : Decoder α} {default : α}
    (holds : HeldUnder names members none) :
    (field names decoder (some default)).named layer members = .ok default := by
  have kept : members.filter (fun member => names.contains member.1) = [] := holds
  simp only [field, kept]

theorem named_optional {name : String} {decoder : Decoder α} {value : Option α} {written : α → Json}
    (holds : HeldUnder [name] members ((value.map written).map Json.sorted))
    (decoded : ∀ present, value = some present →
      Decode.option decoder layer (written present).sorted = .ok (some present)) :
    (optional name decoder).named layer members = .ok value := by
  cases value with
  | none => exact named_field_of_nothing holds
  | some present => exact named_field_of_held holds (decoded present rfl)

theorem named_list {names : List String} {decoder : Decoder α} {items : List α} {written : α → Json}
    (holds : HeldUnder names members
      ((if items.isEmpty then none else some (Json.array (items.map written))).map Json.sorted))
    (decoded : ∀ item ∈ items, decoder layer (written item).sorted = .ok item) :
    (field names (Decode.list decoder) (some [])).named layer members = .ok items := by
  cases items with
  | nil => exact named_field_of_nothing holds
  | cons first rest =>
      refine named_field_of_held holds ?_
      rw [Json.sorted, Json.sortedItems_eq_map, List.map_map, Decode.list]
      exact Except.mapM_map_eq_ok decoded

theorem named_map {fields : Fields α} {read : α} (f : α → β)
    (named : fields.named layer members = .ok read) :
    (f <$> fields).named layer members = .ok (f read) := by
  simp only [Functor.map, apply, always, named]

theorem named_seq {functions : Fields (α → β)} {arguments : Fields α} {f : α → β} {read : α}
    (first : functions.named layer members = .ok f)
    (second : arguments.named layer members = .ok read) :
    (functions <*> arguments).named layer members = .ok (f read) := by
  simp only [Seq.seq, apply, first, second]

theorem named_seq_left {functions : Fields (α → β)} {arguments : Fields α} {f : α → β}
    (first : functions.named layer members = .ok f) :
    (functions <*> arguments).named layer members = (arguments.named layer members).map f := by
  simp only [Seq.seq, apply, first]
  cases arguments.named layer members <;> rfl

theorem named_seq_right {functions : Fields (α → β)} {arguments : Fields α} {read : α}
    (second : arguments.named layer members = .ok read) :
    (functions <*> arguments).named layer members =
      (functions.named layer members).map fun f => f read := by
  simp only [Seq.seq, apply, second]
  cases functions.named layer members <;> rfl

theorem record_of_named {name : String} {fields : Fields α} {read : α}
    (named : fields.named layer members = .ok read) :
    Decode.record name fields layer (.object members) = .ok read := by
  rw [Decode.record, named]
  rfl

end Fields

theorem Decode.option_of_ok {α : Type} {decoder : Decoder α} {layer : Layer} {value : Json}
    {read : α} (present : value ≠ .null) (decoded : decoder layer value = .ok read) :
    Decode.option decoder layer value = .ok (some read) := by
  cases value <;> simp_all [option, Except.map]

theorem lookup_spellings {α : Type} {all : List α} {name : α → String}
    (distinct : ∀ first ∈ all, ∀ second ∈ all, name first = name second → first = second)
    (small : ∀ first ∈ all, ∀ second ∈ all,
      (name first).toList ≠ (name second).toList.map Char.toUpper)
    {value : α} (known : value ∈ all) :
    (all.flatMap fun each => [((name each).toUpper, each), (name each, each)]).lookup (name value) =
      some value := by
  have capitals : ∀ each ∈ all, (name value == (name each).toUpper) = false := by
    intro each member
    rw [beq_eq_false_iff_ne, String.toUpper]
    intro same
    exact small value known each member (by rw [same, String.toList_map])
  have same : ∀ each ∈ all, name value = name each → value = each :=
    fun each member => distinct value known each member
  clear distinct small
  induction all with
  | nil => simp at known
  | cons first rest ih =>
      obtain ⟨capital, capitals⟩ := List.forall_mem_cons.mp capitals
      obtain ⟨here, same⟩ := List.forall_mem_cons.mp same
      simp only [List.flatMap_cons, List.cons_append, List.nil_append, List.lookup_cons, capital]
      cases found : name value == name first with
      | true => rw [here (beq_iff_eq.mp found)]
      | false =>
          refine ih ?_ capitals same
          rcases List.mem_cons.mp known with rfl | later
          · simp at found
          · exact later

end Compliance
