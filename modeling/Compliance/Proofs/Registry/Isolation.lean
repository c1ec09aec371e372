import Mathlib.Data.Finset.Card
import Compliance.Proofs.Registry.Accepted

/-!
Batches in which some entries are turned down. The others are registered as if these were not
there, and the summary tells which they were and why.
-/

namespace Compliance

theorem index_rejection (index : Nat) (refusal : Refusal) :
    (Summary.rejection index refusal).index = index := by
  cases refusal <;> rfl

theorem mem_rejectionsFrom (rejection : Rejection) (start : Nat)
    (candidates : List (Except Refusal Rule)) :
    rejection ∈ rejectionsFrom start candidates ↔ ∃ position refusal,
      candidates[position]? = some (.error refusal) ∧
        rejection = Summary.rejection (start + position) refusal := by
  induction candidates generalizing start with
  | nil => simp [rejectionsFrom]
  | cons candidate rest ih =>
      cases candidate with
      | ok rule =>
          rw [rejectionsFrom, ih]
          constructor
          · rintro ⟨position, refusal, found, rfl⟩
            exact ⟨position + 1, refusal, found, by rw [Nat.add_right_comm, Nat.add_assoc]⟩
          · rintro ⟨position, refusal, found, rfl⟩
            cases position with
            | zero => simp at found
            | succ position =>
                exact ⟨position, refusal, found, by rw [Nat.add_right_comm, Nat.add_assoc]⟩
      | error first =>
          rw [rejectionsFrom, List.mem_cons, ih]
          constructor
          · rintro (rfl | ⟨position, refusal, found, rfl⟩)
            · exact ⟨0, first, rfl, rfl⟩
            · exact ⟨position + 1, refusal, found, by rw [Nat.add_right_comm, Nat.add_assoc]⟩
          · rintro ⟨position, refusal, found, rfl⟩
            cases position with
            | zero =>
                left
                simp only [List.getElem?_cons_zero, Option.some.injEq, Except.error.injEq] at found
                rw [found, Nat.add_zero]
            | succ position =>
                right
                exact ⟨position, refusal, found, by rw [Nat.add_right_comm, Nat.add_assoc]⟩

theorem pairwise_rejectionsFrom (start : Nat) (candidates : List (Except Refusal Rule)) :
    ((rejectionsFrom start candidates).map Rejection.index).Pairwise (· < ·) := by
  induction candidates generalizing start with
  | nil => exact List.Pairwise.nil
  | cons candidate rest ih =>
      cases candidate with
      | ok rule => exact ih (start + 1)
      | error refusal =>
          rw [rejectionsFrom, List.map_cons, index_rejection]
          refine List.pairwise_cons.mpr ⟨?_, ih (start + 1)⟩
          intro index listed
          obtain ⟨rejection, reported, rfl⟩ := List.mem_map.mp listed
          obtain ⟨position, refusal, _, rfl⟩ := (mem_rejectionsFrom _ _ _).mp reported
          rw [index_rejection]
          omega

theorem length_accepted_add_rejected (start : Nat) (candidates : List (Except Refusal Rule)) :
    candidates.length =
      (acceptedRules candidates).length + (rejectionsFrom start candidates).length := by
  induction candidates generalizing start with
  | nil => rfl
  | cons candidate rest ih =>
      have others := ih (start + 1)
      cases candidate with
      | ok rule =>
          have accepted : acceptedRules (.ok rule :: rest) = rule :: acceptedRules rest := rfl
          rw [accepted, rejectionsFrom, List.length_cons, List.length_cons]
          omega
      | error refusal =>
          have accepted : acceptedRules (.error refusal :: rest) = acceptedRules rest := rfl
          rw [accepted, rejectionsFrom, List.length_cons, List.length_cons]
          omega

namespace Registry

theorem keys_ruleEntries (rules : List Rule) :
    Keyed.keys (rules.map fun rule => (rule.id, rule)) = rules.map Rule.id := by
  rw [Keyed.keys, List.map_map]
  rfl

theorem mem_ids_holding (registry : Registry) (rules : List Rule) (id : String) :
    id ∈ (registry.holding rules).ids ↔ id ∈ registry.ids ∨ id ∈ rules.map Rule.id := by
  rw [ids, holding, Keyed.mem_keys_insertAll, keys_ruleEntries, ids]

theorem toFinset_ids_holding (registry : Registry) (rules : List Rule) :
    (registry.holding rules).ids.toFinset =
      registry.ids.toFinset ∪ (rules.map Rule.id).toFinset := by
  ext id
  rw [Finset.mem_union, List.mem_toFinset, List.mem_toFinset, List.mem_toFinset, mem_ids_holding]

theorem card_ids {registry : Registry} (ordered : Keyed.Ascending registry.rules) :
    registry.ids.toFinset.card = registry.size := by
  rw [ids, List.toFinset_card_of_nodup ordered.nodup, size, Keyed.keys, List.length_map]

theorem size_holding {registry : Registry} (ordered : Keyed.Ascending registry.rules)
    (rules : List Rule) :
    (registry.holding rules).size =
      registry.size + ((rules.map Rule.id).toFinset \ registry.ids.toFinset).card := by
  have after : (registry.holding rules).ids.toFinset.card = (registry.holding rules).size :=
    card_ids (ordered.insertAll _)
  rw [← after, ← card_ids ordered, toFinset_ids_holding, Finset.union_comm,
    ← Finset.card_sdiff_add_card, Nat.add_comm]

end Registry

/-- What a batch is to do, given the registry before it and how each of its entries fares alone. -/
structure Batch.Isolates (registry : Registry) (candidates : List (Except Refusal Rule))
    (batch : Batch) : Prop where
  registered : batch.registry =
    (acceptedRules candidates).foldl (fun before rule => (before.register rule).2) registry
  total : batch.summary.total = candidates.length
  counted : batch.summary.total = batch.summary.successful + batch.summary.failed
  failed : batch.summary.failed = batch.summary.errors.length
  inOrder : (batch.summary.errors.map Rejection.index).Pairwise (· < ·)
  positions : ∀ index, index ∈ batch.summary.errors.map Rejection.index ↔
    ∃ refusal, candidates[index]? = some (.error refusal)
  reasons : ∀ rejection ∈ batch.summary.errors, ∃ refusal,
    candidates[rejection.index]? = some (.error refusal) ∧
      rejection = Summary.rejection rejection.index refusal
  ids : batch.registry.ids.toFinset =
    registry.ids.toFinset ∪ ((acceptedRules candidates).map Rule.id).toFinset
  size : batch.registry.size = registry.size +
    (((acceptedRules candidates).map Rule.id).toFinset \ registry.ids.toFinset).card

theorem Batch.isolates_addAll {registry : Registry} (ordered : Keyed.Ascending registry.rules)
    {candidates : List (Except Refusal Rule)} (validated : Validated candidates) :
    (candidates.foldl Batch.add { registry }).Isolates registry candidates := by
  have accepted : ∀ rule ∈ acceptedRules candidates, rule.Valid := fun rule listed =>
    validated rule ((mem_acceptedRules rule candidates).mp listed)
  rw [addAll_eq validated]
  refine
    { registered := registry.holding_eq_foldl accepted
      total := Nat.zero_add _
      counted := ?_
      failed := by simp
      inOrder := by simpa using pairwise_rejectionsFrom 0 candidates
      positions := ?_
      reasons := ?_
      ids := registry.toFinset_ids_holding _
      size := Registry.size_holding ordered _ }
  · simpa using length_accepted_add_rejected 0 candidates
  · intro index
    simp only [List.nil_append, List.mem_map, mem_rejectionsFrom, Nat.zero_add]
    constructor
    · rintro ⟨_, ⟨position, refusal, found, rfl⟩, rfl⟩
      exact ⟨refusal, by rwa [index_rejection]⟩
    · rintro ⟨refusal, found⟩
      exact ⟨_, ⟨index, refusal, found, rfl⟩, index_rejection index refusal⟩
  · intro rejection listed
    rw [List.nil_append, mem_rejectionsFrom] at listed
    obtain ⟨position, refusal, found, rfl⟩ := listed
    rw [Nat.zero_add, index_rejection]
    exact ⟨refusal, found, rfl⟩

namespace Registry

/-- A batch of rules or of definitions does what its entries would do one by one, and so does the
list that a payload is read as. A payload that is no list is turned down whole. -/
theorem batches_isolate {registry : Registry} (ordered : Keyed.Ascending registry.rules) :
    (∀ rules : List Rule,
      (registry.registerMany rules).Isolates registry (rules.map Rule.validated)) ∧
    (∀ definitions : List Json,
      (registry.registerValues definitions).Isolates registry (definitions.map Rule.ofJson)) ∧
    (∀ (payload : String) (definitions : List Json), Json.items? payload = some definitions →
      ∃ batch, registry.importText payload = .ok batch ∧
        batch.Isolates registry (definitions.map Rule.ofJson)) ∧
    (∀ payload : String, Json.items? payload = none →
      (∃ reason, registry.importText payload = .error (.notRuleSet reason)) ∧
        registry.perform (.importText payload) = registry) := by
  have values (definitions : List Json) :
      (registry.registerValues definitions).Isolates registry (definitions.map Rule.ofJson) := by
    rw [registerValues_eq_addAll]
    exact Batch.isolates_addAll ordered (Validated.of_definitions definitions)
  refine ⟨?_, values, ?_, ?_⟩
  · intro rules
    rw [registerMany_eq_addAll]
    exact Batch.isolates_addAll ordered (Validated.of_rules rules)
  · intro payload definitions listed
    exact ⟨_, registry.importText_of_items listed, values definitions⟩
  · intro payload noList
    obtain ⟨reason, refused⟩ := registry.importText_of_no_items noList
    refine ⟨⟨reason, refused⟩, ?_⟩
    rw [perform, refused]

def cautionRule (id : String) : Rule where
  id := id
  source := "Code C"
  kind := .mandatoryProcedure
  condition := Authored.phraseElement "cautioned"
  onSuccess := { result := "ok", message := "Caution recorded" }
  onFailure := { result := "bad", message := "No caution recorded" }

/-- A new rule, one without an id, the new one again and one that is there already; then a list of
which no item is a rule, and a payload that is no list. -/
theorem batches_isolate_mixed :
    let registry : Registry := ⟨[("c10", cautionRule "c10")]⟩
    let batch := registry.registerMany
      [cautionRule "c11", cautionRule " ", cautionRule "c11", cautionRule "c10"]
    1 ∈ batch.summary.errors.map Rejection.index ∧ batch.registry.size = 2 ∧
      (∃ imported, registry.importText "[null, []]" = .ok imported ∧
        imported.summary.total = 2 ∧ imported.registry.size = 1) ∧
      registry.perform (.importText "null") = registry := by
  intro registry batch
  have ordered : Keyed.Ascending registry.rules := List.pairwise_singleton _ _
  obtain ⟨many, _, listed, other⟩ := batches_isolate ordered
  have isolated : batch.Isolates registry _ := many _
  obtain ⟨imported, read, apart⟩ := listed "[null, []]" [.null, .array []] (by cbv)
  refine ⟨(isolated.positions 1).mpr ⟨_, rfl⟩, ?_, ⟨imported, read, apart.total, ?_⟩,
    (other "null" (by cbv)).2⟩
  · rw [isolated.size]
    decide
  · rw [apart.size]
    decide

end Registry

end Compliance
