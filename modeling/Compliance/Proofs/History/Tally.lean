import Mathlib.Data.List.Induction
import Compliance.History
import Compliance.Proofs.Keyed

/-!
The pass through the log. It counts every entry twice, for all rules together and for the rule of
the entry. So the tallies of the rules add up to that of the whole, and the tally of a rule is what
a pass through the entries of this rule alone gives.
-/

namespace Compliance

def HistoryEntry.about (id : String) (entries : List HistoryEntry) : List HistoryEntry :=
  entries.filter fun entry => entry.ruleId == id

open HistoryEntry (about)

theorem HistoryEntry.about_append (id : String) (first later : List HistoryEntry) :
    about id (first ++ later) = about id first ++ about id later :=
  List.filter_append first later

theorem HistoryEntry.about_singleton (id : String) (entry : HistoryEntry) :
    about id [entry] = if entry.ruleId = id then [entry] else [] := by
  simp [about, List.filter_cons]

namespace RuleTally

def ofEntries (entries : List HistoryEntry) : RuleTally :=
  entries.foldl add {}

theorem ofEntries_append_singleton (entries : List HistoryEntry) (entry : HistoryEntry) :
    ofEntries (entries ++ [entry]) = (ofEntries entries).add entry :=
  List.foldl_append

theorem compliant_add (tally : RuleTally) (entry : HistoryEntry) :
    (tally.add entry).compliant = tally.compliant + [entry].countP HistoryEntry.compliant := by
  cases complied : entry.compliant <;> simp [add, complied]

theorem evaluations_ofEntries (entries : List HistoryEntry) :
    (ofEntries entries).evaluations = entries.length := by
  induction entries using List.reverseRecOn with
  | nil => rfl
  | append_singleton done entry ih =>
      rw [ofEntries_append_singleton, add, ih, List.length_append, List.length_singleton]

theorem compliant_ofEntries (entries : List HistoryEntry) :
    (ofEntries entries).compliant = entries.countP HistoryEntry.compliant := by
  induction entries using List.reverseRecOn with
  | nil => rfl
  | append_singleton done entry ih =>
      rw [ofEntries_append_singleton, compliant_add, ih, List.countP_append]

end RuleTally

namespace HistoryTally

def sum (size : RuleTally → Nat) (tally : HistoryTally) : Nat :=
  (tally.perRule.map fun entry => size entry.2).sum

/-- What a pass through these entries has counted. -/
structure Covers (entries : List HistoryEntry) (tally : HistoryTally) : Prop where
  compliant : tally.compliant = entries.countP HistoryEntry.compliant
  ascending : Keyed.Ascending tally.perRule
  rules : ∀ id, id ∈ Keyed.keys tally.perRule ↔ id ∈ entries.map HistoryEntry.ruleId
  own : ∀ id, tally.ofRule id = .ofEntries (about id entries)
  evaluations : tally.sum RuleTally.evaluations = entries.length
  compliances : tally.sum RuleTally.compliant = tally.compliant

section Step

variable {tally : HistoryTally}

theorem ofRule_add (entry : HistoryEntry) (id : String) :
    (tally.add entry).ofRule id =
      if id = entry.ruleId then (tally.ofRule entry.ruleId).add entry else tally.ofRule id := by
  rw [HistoryTally.ofRule, add, Keyed.get?_insert]
  split <;> rfl

theorem sum_add (ascending : Keyed.Ascending tally.perRule) (size : RuleTally → Nat)
    (nothing : size {} = 0) (entry : HistoryEntry) :
    (tally.add entry).sum size + size (tally.ofRule entry.ruleId) =
      tally.sum size + size ((tally.ofRule entry.ruleId).add entry) := by
  have before : size (tally.ofRule entry.ruleId) =
      (Keyed.get? entry.ruleId tally.perRule).elim 0 size := by
    rw [HistoryTally.ofRule]
    cases Keyed.get? entry.ruleId tally.perRule with
    | none => exact nothing
    | some kept => rfl
  rw [before]
  exact ascending.sum_insert size entry.ruleId _

theorem Covers.add {entries : List HistoryEntry} (covers : Covers entries tally)
    (entry : HistoryEntry) : Covers (entries ++ [entry]) (tally.add entry) := by
  have complied : (tally.add entry).compliant =
      tally.compliant + [entry].countP HistoryEntry.compliant := by
    cases verdict : entry.compliant <;> simp [HistoryTally.add, verdict]
  constructor
  case compliant => rw [complied, covers.compliant, List.countP_append]
  case ascending => exact covers.ascending.insert _ _
  case rules =>
    intro id
    rw [HistoryTally.add, Keyed.mem_keys_insert, covers.rules, List.map_append, List.mem_append,
      or_comm]
    exact or_congr_right List.mem_singleton.symm
  case own =>
    intro id
    rw [ofRule_add, HistoryEntry.about_append, HistoryEntry.about_singleton, covers.own,
      covers.own]
    by_cases same : id = entry.ruleId
    · rw [if_pos same, if_pos same.symm, same, RuleTally.ofEntries_append_singleton]
    · rw [if_neg same, if_neg (Ne.symm same), List.append_nil]
  case evaluations =>
    have counted := sum_add covers.ascending RuleTally.evaluations rfl entry
    have before := covers.evaluations
    have more : ((tally.ofRule entry.ruleId).add entry).evaluations =
        (tally.ofRule entry.ruleId).evaluations + 1 := rfl
    rw [List.length_append, List.length_singleton]
    omega
  case compliances =>
    have counted := sum_add covers.ascending RuleTally.compliant rfl entry
    have before := covers.compliances
    rw [RuleTally.compliant_add] at counted
    omega

end Step

theorem covers_ofEntries (entries : List HistoryEntry) : Covers entries (ofEntries entries) := by
  -- the pass goes on at the end of the entries, so the induction is from there
  induction entries using List.reverseRecOn with
  | nil => exact ⟨rfl, List.Pairwise.nil, fun _ => Iff.rfl, fun _ => rfl, rfl, rfl⟩
  | append_singleton done entry ih =>
      have last : ofEntries (done ++ [entry]) = (ofEntries done).add entry :=
        List.foldl_append
      rw [last]
      exact ih.add entry

end HistoryTally

end Compliance
