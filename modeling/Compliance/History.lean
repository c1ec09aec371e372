import Compliance.Evaluation

/-!
The log of evaluations and its statistics. Entries are only ever appended, and one pass through them
counts for the whole and for each rule.
-/

namespace Compliance

structure HistoryEntry where
  ruleId : String
  time : Timestamp
  compliant : Bool
  milliseconds : Float

structure RuleStatistics where
  evaluations : Nat
  compliant : Nat
  averageMilliseconds : Float

structure HistoryStatistics where
  total : Nat := 0
  compliant : Nat := 0
  nonCompliant : Nat := 0
  complianceRate : Float := 0.0
  averageMilliseconds : Float := 0.0
  perRule : List (String × RuleStatistics) := []

structure RuleTally where
  evaluations : Nat := 0
  compliant : Nat := 0
  milliseconds : Float := 0.0

structure HistoryTally where
  compliant : Nat := 0
  milliseconds : Float := 0.0
  perRule : List (String × RuleTally) := []

structure History where
  entries : List HistoryEntry := []

namespace HistoryEntry

def ofEvaluation (evaluation : Evaluation) : HistoryEntry where
  ruleId := evaluation.ruleId
  time := evaluation.time
  compliant := evaluation.compliant
  milliseconds := evaluation.milliseconds

def toJson (entry : HistoryEntry) : Json :=
  .object [("rule_id", .string entry.ruleId), ("timestamp", entry.time.toJson),
    ("compliant", .bool entry.compliant), ("duration_ms", .ofFloat entry.milliseconds)]

def decode : Decoder HistoryEntry :=
  Decode.record "HistoryEntry"
    (HistoryEntry.mk <$> Fields.required "rule_id" Decode.text
      <*> Fields.required "timestamp" Timestamp.decode
      <*> Fields.required "compliant" Decode.bool
      <*> Fields.required "duration_ms" Decode.float)

end HistoryEntry

namespace RuleTally

def add (tally : RuleTally) (entry : HistoryEntry) : RuleTally where
  evaluations := tally.evaluations + 1
  compliant := if entry.compliant then tally.compliant + 1 else tally.compliant
  milliseconds := tally.milliseconds + entry.milliseconds

def statistics (tally : RuleTally) : RuleStatistics where
  evaluations := tally.evaluations
  compliant := tally.compliant
  averageMilliseconds := tally.milliseconds / Float.ofNat tally.evaluations

end RuleTally

namespace HistoryTally

def ofRule (tally : HistoryTally) (id : String) : RuleTally :=
  (Keyed.get? id tally.perRule).getD {}

def add (tally : HistoryTally) (entry : HistoryEntry) : HistoryTally where
  compliant := if entry.compliant then tally.compliant + 1 else tally.compliant
  milliseconds := tally.milliseconds + entry.milliseconds
  perRule := Keyed.insert entry.ruleId ((tally.ofRule entry.ruleId).add entry) tally.perRule

def ofEntries (entries : List HistoryEntry) : HistoryTally :=
  entries.foldl add {}

end HistoryTally

namespace RuleStatistics

def toJson (statistics : RuleStatistics) : Json :=
  .object [("evaluations", .integer statistics.evaluations),
    ("compliant", .integer statistics.compliant),
    ("average_duration_ms", .ofFloat statistics.averageMilliseconds)]

end RuleStatistics

namespace HistoryStatistics

def ofEntries (entries : List HistoryEntry) : HistoryStatistics :=
  if entries.isEmpty then {}
  else
    let tally := HistoryTally.ofEntries entries
    { total := entries.length
      compliant := tally.compliant
      nonCompliant := entries.length - tally.compliant
      complianceRate := Float.ofNat tally.compliant / Float.ofNat entries.length
      averageMilliseconds := tally.milliseconds / Float.ofNat entries.length
      perRule := tally.perRule.map fun (id, rule) => (id, rule.statistics) }

def toJson (statistics : HistoryStatistics) : Json :=
  .object [("total", .integer statistics.total), ("compliant", .integer statistics.compliant),
    ("non_compliant", .integer statistics.nonCompliant),
    ("compliance_rate", .ofFloat statistics.complianceRate),
    ("average_duration_ms", .ofFloat statistics.averageMilliseconds),
    ("per_rule", .object (statistics.perRule.map fun (id, rule) => (id, rule.toJson)))]

end HistoryStatistics

namespace History

def empty : History := {}

def record (history : History) (entry : HistoryEntry) : History :=
  { entries := history.entries ++ [entry] }

/-- The entries by time; entries of the same time in the order in which they were recorded. -/
def chronological (history : History) : List HistoryEntry :=
  history.entries.mergeSort fun left right => !right.time.isBefore left.time

def statistics (history : History) : HistoryStatistics :=
  .ofEntries history.entries

end History

end Compliance
