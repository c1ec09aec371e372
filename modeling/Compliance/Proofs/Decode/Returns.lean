import Compliance.Proofs.Decode.Held

/-!
Exactly what a reading gives back: under a condition the value that was written, and without it
nothing but a fault. The condition of a record is put together from those of its fields.
-/

namespace Compliance

/-- The result is this value if the condition holds, and otherwise a fault. -/
structure Returns {ε α : Type} (result : Except ε α) (given : Prop) (value : α) : Prop where
  read : given → result = .ok value
  refused : ¬ given → ∃ fault, result = .error fault

namespace Returns

variable {ε δ α β : Type} {given other : Prop} {value : α}

theorem of_ok {result : Except ε α} (done : result = .ok value) : Returns result True value where
  read _ := done
  refused absurdly := absurd trivial absurdly

theorem congr {result : Except ε α} (returns : Returns result given value)
    (same : given ↔ other) : Returns result other value where
  read holds := returns.read (same.mpr holds)
  refused fails := returns.refused fun holds => fails (same.mp holds)

theorem mapError {result : Except ε α} (returns : Returns result given value) (f : ε → δ) :
    Returns (result.mapError f) given value where
  read holds := by
    rw [returns.read holds]
    rfl
  refused fails := by
    obtain ⟨fault, refused⟩ := returns.refused fails
    rw [refused]
    exact ⟨f fault, rfl⟩

theorem map {result : Except ε α} (returns : Returns result given value) (f : α → β) :
    Returns (result.map f) given (f value) where
  read holds := by
    rw [returns.read holds]
    rfl
  refused fails := by
    obtain ⟨fault, refused⟩ := returns.refused fails
    rw [refused]
    exact ⟨fault, rfl⟩

theorem bind {result : Except ε α} {next : α → Except ε β} {last : β}
    (returns : Returns result given value) (after : Returns (next value) other last) :
    Returns (result >>= next) (given ∧ other) last where
  read both := by
    rw [returns.read both.1]
    exact after.read both.2
  refused fails := by
    by_cases holds : given
    · rw [returns.read holds]
      exact after.refused fun rest => fails ⟨holds, rest⟩
    · obtain ⟨fault, refused⟩ := returns.refused holds
      rw [refused]
      exact ⟨fault, rfl⟩

theorem mapM {written : α → β} {decode : β → Except ε α} {each : α → Prop} {items : List α}
    (returned : ∀ item ∈ items, Returns (decode (written item)) (each item) item) :
    Returns ((items.map written).mapM decode) (∀ item ∈ items, each item) items := by
  induction items with
  | nil => exact (of_ok rfl).congr (by simp)
  | cons item rest ih =>
      obtain ⟨first, others⟩ := List.forall_mem_cons.mp returned
      rw [List.map_cons, List.mapM_cons]
      have whole : Returns (pure (item :: rest) : Except ε (List α)) True (item :: rest) :=
        of_ok rfl
      refine (first.bind ((ih others).bind whole)).congr ?_
      rw [and_true, List.forall_mem_cons]

theorem list {decoder : Decoder α} {layer : Layer} {written : α → Json} {each : α → Prop}
    {items : List α}
    (returned : ∀ item ∈ items, Returns (decoder layer (written item).sorted) (each item) item) :
    Returns (Decode.list decoder layer (Json.array (items.map written)).sorted)
      (∀ item ∈ items, each item) items := by
  rw [Json.sorted, Json.sortedItems_eq_map, List.map_map, Decode.list]
  exact mapM returned

theorem count (layer : Layer) (value : Nat) :
    Returns (Decode.count layer (Json.integer value).sorted) (value < wordCount) value where
  read bounded := if_pos bounded
  refused beyond := ⟨_, if_neg beyond⟩

theorem float (layer : Layer) (value : Float) :
    Returns (Decode.float layer (Json.ofFloat value).sorted) (value.isFinite = true) value where
  read finite := by
    rw [Json.ofFloat, if_pos finite]
    rfl
  refused infinite := by
    rw [Json.ofFloat, if_neg infinite]
    exact ⟨_, rfl⟩

end Returns

/-- Under each name that is a field's alone the object holds what the field has. -/
def Holding (fields : List (String × Option Json)) (members : List (String × Json)) : Prop :=
  ∀ name held, fields.filter (fun field => [name].contains field.1) = [(name, held)] →
    HeldUnder [name] members (held.map Json.sorted)

theorem holding_of_sorted {fields : List (String × Option Json)}
    (distinct : (fields.map Prod.fst).Nodup) :
    ∃ inOrder, (Json.object (presentMembers fields)).sorted = .object inOrder ∧
      Holding fields inOrder := by
  obtain ⟨inOrder, same, holds⟩ := sorted_presentMembers distinct
  exact ⟨inOrder, same, fun name held only => holds [name] held only⟩

theorem Holding.untagged {tag : String} {mark : Option Json} {fields : List (String × Option Json)}
    {members : List (String × Json)} (holds : Holding ((tag, mark) :: fields) members)
    (apart : tag ∉ fields.map Prod.fst) :
    Holding fields (members.filter fun member => member.1 != tag) := by
  intro name held only
  have listed : (name, held) ∈ fields.filter fun field => [name].contains field.1 := by
    rw [only]
    exact List.mem_singleton_self _
  have different : name ≠ tag := by
    rintro rfl
    exact apart (List.mem_map_of_mem (List.mem_filter.mp listed).1)
  have kept : HeldUnder [name] members (held.map Json.sorted) := by
    apply holds name held
    rw [List.filter_cons_of_neg (by simpa using different.symm), only]
  rw [HeldUnder, List.filter_filter]
  refine (List.filter_congr fun member _ => ?_).trans kept
  by_cases same : member.1 = name
  · simp [same, different]
  · simp [same]

namespace Returns

variable {α β : Type} {layer : Layer} {members : List (String × Json)} {given other : Prop}

theorem field {name : String} {decoder : Decoder α} {absent : Option α} {value : Json} {read : α}
    (holds : HeldUnder [name] members (some value))
    (returned : Returns (decoder layer value) given read) :
    Returns ((Fields.field [name] decoder absent).named layer members) given read := by
  rw [Fields.named_of_held holds]
  exact returned.mapError _

theorem seq {functions : Fields (α → β)} {arguments : Fields α} {f : α → β} {read : α}
    (first : Returns (functions.named layer members) given f)
    (second : Returns (arguments.named layer members) other read) :
    Returns ((functions <*> arguments).named layer members) (given ∧ other) (f read) where
  read both := Fields.named_seq (first.read both.1) (second.read both.2)
  refused fails := by
    by_cases holds : given
    · obtain ⟨fault, refused⟩ := second.refused fun rest => fails ⟨holds, rest⟩
      rw [Fields.named_seq_left (first.read holds), refused]
      exact ⟨fault, rfl⟩
    · obtain ⟨fault, refused⟩ := first.refused holds
      simp only [Seq.seq, Fields.apply, refused]
      cases arguments.named layer members <;> exact ⟨_, rfl⟩

theorem make {fields : Fields α} {read : α} (f : α → β)
    (returned : Returns (fields.named layer members) given read) :
    Returns ((f <$> fields).named layer members) given (f read) := by
  have mapped : (f <$> fields).named layer members = (fields.named layer members).map f := by
    simp only [Functor.map, Fields.apply, Fields.always]
    cases fields.named layer members <;> rfl
  rw [mapped]
  exact returned.map f

theorem record {name : String} {fields : Fields α} {read : α}
    (returned : Returns (fields.named layer members) given read) :
    Returns (Decode.record name fields layer (.object members)) given read :=
  returned.mapError _

end Returns

end Compliance
