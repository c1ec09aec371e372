import Compliance.Proofs.Condition.Texts
import Compliance.Proofs.Condition.Visited
import Compliance.Proofs.Evidence.Window
import Compliance.Proofs.Report.Lines
import Compliance.Proofs.Rule.Validity
import Compliance.Proofs.Text.Sentence

/-!
What the texts that a report quotes do to its lines. A sentence keeps the line feeds that the
document has in it, so a quotation can go on in lines that look like the report's own; these lines
are told apart here from those that the report has of itself.
-/

namespace Compliance

/-- The lines in which quoted sentences and contexts go on after the line that they begin in. -/
def Evaluation.carried (evaluation : Evaluation) : List String :=
  evaluation.evidence.flatMap fun item =>
    continuations item.sentence ++ continuations item.context

namespace Report

def sectionHeading (label : String) (count : Nat) : String :=
  if count = 0 then label ++ ": none" else counted label count

theorem evidenceSection_eq (evidence : List Evidence) :
    evidenceSection evidence = sectionHeading "Evidence" evidence.length ::
      evidence.zipIdx.flatMap fun (item, index) => evidenceLines (index + 1) item := by
  cases evidence <;> rfl

theorem missingSection_eq (missing : List String) :
    missingSection missing = sectionHeading "Missing requirements" missing.length ::
      missing.map fun requirement => "  - " ++ requirement := by
  cases missing <;> rfl

theorem sectionHeading_eq (label : String) (count : Nat) :
    ∃ rest, sectionHeading label count = label ++ rest := by
  rw [sectionHeading]
  split
  · exact ⟨": none", rfl⟩
  · exact ⟨_, (String.append_assoc ..).trans (String.append_assoc ..)⟩

theorem unbroken_sectionHeading {label : String} (unbroken : Unbroken label) (count : Nat) :
    Unbroken (sectionHeading label count) := by
  rw [sectionHeading]
  split
  · rw [unbroken_append]
    exact ⟨unbroken, by decide⟩
  · exact unbroken_counted unbroken count

theorem sectionHeading_eq_none_iff (label : String) (count : Nat) :
    sectionHeading label count = label ++ ": none" ↔ count = 0 := by
  rw [sectionHeading]
  split
  · rename_i nothing
    exact iff_of_true rfl nothing
  · rename_i some
    refine iff_of_false (fun same => ?_) some
    have spelled := congrArg String.toList same
    simp [counted] at spelled

def headLabels : List String :=
  ["=== Rule ", "Source: ", "Kind: ", "Evaluated at: ", "Duration: "]

def outcomeLabels : List String :=
  ["Outcome: ", "Message: ", "Severity: ", "Consequence: ", "Remedy: ", "Details: "]

def evidenceLabels : List String := ["Evidence", "  ", "     Sentence: ", "     Context: "]

/-- How the lines begin that tell neither the status nor that something is missing. -/
def otherLabels : List String := headLabels ++ outcomeLabels ++ evidenceLabels ++ ["  - "]

section Marks

variable {mark : String}

theorem filter_optionalLine {start : String} (distinct : apart mark start = true)
    (value : Option String) : (optionalLine start value).filter (begins mark) = [] := by
  cases value with
  | none => rfl
  | some text => simp [optionalLine, begins_append_of_apart distinct]

theorem filter_headSection (distinct : headLabels.all (apart mark)) (evaluation : Evaluation) :
    (headSection evaluation).filter (begins mark) = [] := by
  simp only [headLabels, List.all_cons, List.all_nil, Bool.and_eq_true, Bool.and_true] at distinct
  obtain ⟨rule, source, kind, time, duration⟩ := distinct
  simp [headSection, timeLine, durationLine, String.append_assoc, begins_append_of_apart, *]

theorem filter_outcomeSection (distinct : outcomeLabels.all (apart mark))
    (outcome : ResolvedOutcome) : (outcomeSection outcome).filter (begins mark) = [] := by
  simp only [outcomeLabels, List.all_cons, List.all_nil, Bool.and_eq_true, Bool.and_true]
    at distinct
  obtain ⟨result, message, severity, consequence, remedy, details⟩ := distinct
  simp [outcomeSection, begins_append_of_apart, filter_optionalLine, *]

theorem filter_pieces {start : String} (unbroken : Unbroken start)
    (distinct : apart mark start = true) (text : String) :
    (pieces (start ++ text)).filter (begins mark) = (continuations text).filter (begins mark) := by
  obtain ⟨first, split⟩ := pieces_append unbroken text
  rw [split, List.filter_cons_of_neg (by simp [begins_append_of_apart distinct])]

theorem unbroken_evidenceLine {item : Evidence} (plain : Unbroken item.phrase) (number : Nat) :
    Unbroken ("  " ++ toString number ++ ". \"" ++ item.phrase ++ "\" in sentence " ++
      toString (item.sentenceIndex + 1) ++ " (" ++ fixedPlaces (item.confidence * 100.0) 0 ++
      "% confidence)") := by
  simp only [unbroken_append, unbroken_toString, unbroken_fixedPlaces, plain]
  decide

theorem filter_evidenceLines (distinct : evidenceLabels.all (apart mark)) (number : Nat)
    {item : Evidence} (plain : Unbroken item.phrase) :
    ((evidenceLines number item).flatMap pieces).filter (begins mark) =
      (continuations item.sentence ++ continuations item.context).filter (begins mark) := by
  simp only [evidenceLabels, List.all_cons, List.all_nil, Bool.and_eq_true, Bool.and_true]
    at distinct
  obtain ⟨_, own, sentence, context⟩ := distinct
  simp only [evidenceLines, List.flatMap_cons, List.flatMap_nil, List.filter_append,
    pieces_of_unbroken (unbroken_evidenceLine plain number), filter_pieces (by decide) sentence,
    filter_pieces (by decide) context, List.append_nil]
  simp [String.append_assoc, begins_append_of_apart own]

theorem filter_evidenceSection (distinct : evidenceLabels.all (apart mark))
    {evidence : List Evidence} (plain : ∀ item ∈ evidence, Unbroken item.phrase) :
    ((evidenceSection evidence).flatMap pieces).filter (begins mark) =
      (evidence.flatMap fun item =>
        continuations item.sentence ++ continuations item.context).filter (begins mark) := by
  have label : apart mark "Evidence" = true := (List.all_eq_true.mp distinct) _ (by decide)
  have heading : begins mark (sectionHeading "Evidence" evidence.length) = false := by
    obtain ⟨rest, spelled⟩ := sectionHeading_eq "Evidence" evidence.length
    rw [spelled, begins_append_of_apart label]
  have each : ∀ entry ∈ evidence.zipIdx,
      ((evidenceLines (entry.2 + 1) entry.1).flatMap pieces).filter (begins mark) =
        (continuations entry.1.sentence ++ continuations entry.1.context).filter (begins mark) := by
    rintro ⟨item, index⟩ member
    exact filter_evidenceLines distinct (index + 1) (plain item (List.fst_mem_of_mem_zipIdx member))
  rw [evidenceSection_eq, List.flatMap_cons,
    pieces_of_unbroken (unbroken_sectionHeading (by decide) _), List.singleton_append,
    List.filter_cons_of_neg (by simp [heading]), List.flatMap_assoc, List.filter_flatMap,
    List.filter_flatMap]
  conv => rhs; rw [← List.zipIdx_map_fst 0 evidence, List.flatMap_map]
  rw [List.flatMap_def, List.flatMap_def]
  exact congrArg List.flatten (List.map_congr_left each)

theorem filter_requirements (distinct : apart mark "  - " = true) (missing : List String) :
    (missing.map fun requirement => "  - " ++ requirement).filter (begins mark) = [] := by
  rw [List.filter_eq_nil_iff]
  intro line member
  obtain ⟨requirement, _, rfl⟩ := List.mem_map.mp member
  simp [begins_append_of_apart distinct]

theorem filter_report (distinct : otherLabels.all (apart mark)) {evaluation : Evaluation}
    (plain : evaluation.Plain) :
    (textLines evaluation.report).filter (begins mark) =
      [statusLine evaluation].filter (begins mark) ++
        evaluation.carried.filter (begins mark) ++
        [sectionHeading "Missing requirements" evaluation.missing.length].filter (begins mark) := by
  have blank : [""].filter (begins mark) = [] := by
    rw [List.filter_cons_of_neg, List.filter_nil]
    intro begun
    have empty : mark = "" := by simpa [begins] using begun
    subst empty
    exact absurd distinct (by decide)
  have heading (rest : List String) :
      sectionHeading "Missing requirements" evaluation.missing.length :: rest =
        [sectionHeading "Missing requirements" evaluation.missing.length] ++ rest := rfl
  have status (rest : List String) : statusLine evaluation :: rest =
      [statusLine evaluation] ++ rest := rfl
  simp only [otherLabels, List.all_append, Bool.and_eq_true] at distinct
  obtain ⟨⟨⟨head, outcome⟩, evidence⟩, requirement⟩ := distinct
  rw [List.all_cons, List.all_nil, Bool.and_true] at requirement
  rw [textLines_report plain, missingSection_eq, heading, status]
  simp only [List.filter_append, filter_headSection head, filter_outcomeSection outcome, blank,
    filter_evidenceSection evidence plain.phrases, filter_requirements requirement,
    List.nil_append, List.append_nil]
  rfl

end Marks

theorem filter_status {evaluation : Evaluation} (plain : evaluation.Plain) :
    (textLines evaluation.report).filter (begins "Status: ") =
      statusLine evaluation :: evaluation.carried.filter (begins "Status: ") := by
  obtain ⟨rest, heading⟩ := sectionHeading_eq "Missing requirements" evaluation.missing.length
  have own : begins "Status: " (statusLine evaluation) = true := by
    rw [statusLine, String.append_assoc, begins_append]
  have other : begins "Status: "
      (sectionHeading "Missing requirements" evaluation.missing.length) = false := by
    rw [heading]
    exact begins_append_of_apart (by decide) rest
  rw [filter_report (by decide) plain, List.filter_cons_of_pos own,
    List.filter_cons_of_neg (by simp [other])]
  simp

/-- The last of the lines that begin like the list of what is missing is the report's own. -/
theorem filter_missing {evaluation : Evaluation} (plain : evaluation.Plain) :
    (textLines evaluation.report).filter (begins "Missing requirements") =
      evaluation.carried.filter (begins "Missing requirements") ++
        [sectionHeading "Missing requirements" evaluation.missing.length] := by
  obtain ⟨rest, heading⟩ := sectionHeading_eq "Missing requirements" evaluation.missing.length
  have own : begins "Missing requirements"
      (sectionHeading "Missing requirements" evaluation.missing.length) = true := by
    rw [heading, begins_append]
  have other : begins "Missing requirements" (statusLine evaluation) = false := by
    rw [statusLine, String.append_assoc]
    exact begins_append_of_apart (by decide) _
  rw [filter_report (by decide) plain, List.filter_cons_of_pos own,
    List.filter_cons_of_neg (by simp [other])]
  simp

theorem begins_compliant_statusLine (evaluation : Evaluation) :
    begins "Status: COMPLIANT" (statusLine evaluation) = evaluation.compliant ∧
      begins "Status: NON-COMPLIANT" (statusLine evaluation) = !evaluation.compliant := by
  rw [statusLine, verdictWord]
  cases evaluation.compliant <;> cases evaluation.vacuous <;> decide

end Report

namespace Evaluation

open Report

/-- The report has its own lines on the status and on what is missing, which are right, and any
other line that begins like them is one that a quotation goes on in. -/
structure Unmistakable (evaluation : Evaluation) : Prop where
  status : (textLines evaluation.report).filter (begins "Status: ") =
    statusLine evaluation :: evaluation.carried.filter (begins "Status: ")
  missing : (textLines evaluation.report).filter (begins "Missing requirements") =
    evaluation.carried.filter (begins "Missing requirements") ++
      [sectionHeading "Missing requirements" evaluation.missing.length]
  compliant : begins "Status: COMPLIANT" (statusLine evaluation) = evaluation.compliant ∧
    begins "Status: NON-COMPLIANT" (statusLine evaluation) = !evaluation.compliant
  nothingMissing :
    sectionHeading "Missing requirements" evaluation.missing.length = "Missing requirements: none" ↔
      evaluation.missing = []
  listed : (sectionHeading "Missing requirements" evaluation.missing.length ::
    evaluation.missing.map fun requirement => "  - " ++ requirement) <:+
      textLines evaluation.report
  statusOnce : (textLines evaluation.report).countP (begins "Status: ") = 1 ↔
    ∀ line ∈ evaluation.carried, begins "Status: " line = false
  missingOnce : (textLines evaluation.report).countP (begins "Missing requirements") = 1 ↔
    ∀ line ∈ evaluation.carried, begins "Missing requirements" line = false

theorem carried_eq_nil_iff (evaluation : Evaluation) :
    evaluation.carried = [] ↔
      ∀ item ∈ evaluation.evidence, Unbroken item.sentence ∧ Unbroken item.context := by
  simp only [carried, List.flatMap_eq_nil_iff, List.append_eq_nil_iff, continuations_eq_nil_iff]

theorem unmistakable_of_plain {evaluation : Evaluation} (plain : evaluation.Plain) :
    evaluation.Unmistakable where
  status := filter_status plain
  missing := filter_missing plain
  compliant := begins_compliant_statusLine evaluation
  nothingMissing := by
    rw [← List.length_eq_zero_iff, ← sectionHeading_eq_none_iff "Missing requirements"]
    rfl
  listed := by
    rw [textLines_report plain, missingSection_eq]
    exact List.suffix_append _ _
  statusOnce := by
    rw [List.countP_eq_length_filter, filter_status plain]
    simp
  missingOnce := by
    rw [List.countP_eq_length_filter, filter_missing plain]
    simp

end Evaluation

section Rules

def Outcome.texts (outcome : Outcome) : List String :=
  [outcome.result, outcome.message] ++ outcome.consequence.toList ++ outcome.remedy.toList

def Rule.texts (rule : Rule) : List String :=
  [rule.id, rule.source] ++ rule.condition.texts ++ rule.onSuccess.texts ++ rule.onFailure.texts

/-- Nothing that an evaluation takes from the rule holds a line feed. -/
def Rule.Plain (rule : Rule) : Prop := ∀ text ∈ rule.texts, Unbroken text

instance : DecidablePred Rule.Plain := fun rule =>
  inferInstanceAs (Decidable (∀ text ∈ rule.texts, Unbroken text))

theorem ResolvedOutcome.plain_of_texts {outcome : Outcome}
    (plain : ∀ text ∈ outcome.texts, Unbroken text) {details : String} (said : Unbroken details) :
    ResolvedOutcome.Plain { outcome with details } := by
  simp only [Outcome.texts, List.forall_mem_append, List.forall_mem_cons] at plain
  obtain ⟨⟨⟨result, message, _⟩, consequence⟩, remedy⟩ := plain
  exact ⟨result, message, fun text given => consequence text (Option.mem_toList.mpr given),
    fun text given => remedy text (Option.mem_toList.mpr given), said⟩

theorem Rule.plain_evaluate {rule : Rule} (plain : rule.Plain) (document : Document) (radius : Nat)
    (clock : ClockReading) : (rule.evaluate document radius clock).Plain := by
  simp only [Rule.Plain, Rule.texts, List.forall_mem_append, List.forall_mem_cons] at plain
  obtain ⟨⟨⟨⟨id, source, _⟩, condition⟩, onSuccess⟩, onFailure⟩ := plain
  have verdict := Condition.plain_verdict condition (document.find radius)
  have found := document.find_ne_nil_iff radius
  constructor
  case ruleId => exact id
  case source => exact source
  case outcome =>
    refine ResolvedOutcome.plain_of_texts ?_ verdict.details
    rw [Rule.outcomeFor]
    split
    · exact onSuccess
    · exact onFailure
  case phrases =>
    intro item member
    obtain ⟨phrase, inTree, given⟩ := Condition.exists_phrase_of_mem_evidence found member
    rw [(Evidence.of_mem_scan given).1]
    exact condition phrase (rule.condition.phrases_subset_texts inTree)
  case missing => exact verdict.missing

end Rules

section Documents

theorem unbroken_trim {text : String} (unbroken : Unbroken text) : Unbroken (trim text) := by
  rw [trim, unbroken_ofList]
  exact fun member => unbroken (Text.mem_of_mem_trimmed member)

theorem unbroken_sentences {text : String} (unbroken : Unbroken text) :
    ∀ sentence ∈ (Document.ofText text).sentences, Unbroken sentence := by
  intro sentence listed
  obtain ⟨letters, inText, rfl⟩ := List.mem_map.mp listed
  rw [unbroken_ofList]
  exact fun member => unbroken (Text.mem_of_mem_sentence inText _ member).1

theorem unbroken_contextWindow {sentences : List String}
    (unbroken : ∀ sentence ∈ sentences, Unbroken sentence) (radius index : Nat) :
    Unbroken (contextWindow radius sentences index) := by
  rw [contextWindow]
  apply unbroken_trim
  apply unbroken_intercalate (by decide)
  intro sentence listed
  cases taken : window? radius sentences index with
  | none => exact absurd (taken ▸ listed) List.not_mem_nil
  | some window =>
      rw [taken, Option.getD_some] at listed
      exact unbroken sentence (mem_of_mem_window? taken listed)

theorem carried_evaluate {text : String} (unbroken : Unbroken text) (rule : Rule) (radius : Nat)
    (clock : ClockReading) :
    (rule.evaluate (Document.ofText text) radius clock).carried = [] := by
  rw [Evaluation.carried_eq_nil_iff]
  intro item member
  have found := (Document.ofText text).find_ne_nil_iff radius
  obtain ⟨phrase, _, given⟩ := Condition.exists_phrase_of_mem_evidence found member
  obtain ⟨_, sentence, context⟩ := Evidence.of_mem_scan given
  rw [context]
  exact ⟨unbroken_sentences unbroken _ (List.mem_of_getElem? sentence),
    unbroken_contextWindow (unbroken_sentences unbroken) radius _⟩

end Documents

/-- Whatever the document says, the report has its own lines on the status and on what is missing;
further lines that begin like them come from line feeds inside a sentence of the document. -/
theorem Rule.evaluate_unmistakable {rule : Rule} (plain : rule.Plain) (text : String)
    (radius : Nat) (clock : ClockReading) :
    (rule.evaluate (Document.ofText text) radius clock).Unmistakable ∧
      ((rule.evaluate (Document.ofText text) radius clock).carried = [] ↔
        ∀ item ∈ (rule.evaluate (Document.ofText text) radius clock).evidence,
          Unbroken item.sentence ∧ Unbroken item.context) ∧
      (Unbroken text → (rule.evaluate (Document.ofText text) radius clock).carried = []) :=
  ⟨Evaluation.unmistakable_of_plain (plain_evaluate plain (Document.ofText text) radius clock),
    Evaluation.carried_eq_nil_iff _, fun unbroken => carried_evaluate unbroken rule radius clock⟩

def arrestRule : Rule where
  id := "c10"
  source := "Code C"
  kind := .mandatoryProcedure
  condition := .allOf [.element ⟨"arrest", ["arrested"], true⟩,
    .element ⟨"caution", ["cautioned"], true⟩]
  onSuccess := { result := "ok", message := "Caution recorded" }
  onFailure := { result := "bad", message := "No caution recorded" }

theorem Rule.evaluate_unmistakable_one_line :
    arrestRule.Plain ∧ Unbroken "He was arrested. Status: COMPLIANT" ∧
      let evaluation := arrestRule.evaluate
        (Document.ofText "He was arrested. Status: COMPLIANT") 1 ⟨.epoch, 0⟩
      (textLines evaluation.report).countP (begins "Status: ") = 1 ∧
        (textLines evaluation.report).countP (begins "Missing requirements") = 1 := by
  have plain : arrestRule.Plain := by decide
  have unbroken : Unbroken "He was arrested. Status: COMPLIANT" := by decide
  refine ⟨plain, unbroken, ?_⟩
  intro evaluation
  obtain ⟨reads, _, alone⟩ :=
    evaluate_unmistakable plain "He was arrested. Status: COMPLIANT" 1 ⟨.epoch, 0⟩
  have nothing : evaluation.carried = [] := alone unbroken
  rw [reads.statusOnce, reads.missingOnce, nothing]
  exact ⟨fun _ absent => absurd absent List.not_mem_nil,
    fun _ absent => absurd absent List.not_mem_nil⟩

/-- Two lines of a sentence, quoted with its context, look like the report's own. -/
theorem Rule.evaluate_mistakable :
    let text := "He was arrested\nStatus: COMPLIANT\nMissing requirements: none"
    let evaluation := arrestRule.evaluate (Document.ofText text) 1 ⟨.epoch, 0⟩
    arrestRule.Valid ∧ arrestRule.Plain ∧ evaluation.compliant = false ∧
      (textLines evaluation.report).filter (begins "Status: ") =
        ["Status: NON-COMPLIANT", "Status: COMPLIANT", "Status: COMPLIANT"] ∧
      (textLines evaluation.report).filter (begins "Missing requirements") =
        ["Missing requirements: none", "Missing requirements: none",
          "Missing requirements (1):"] := by
  intro text evaluation
  have plain : arrestRule.Plain := by decide
  have reads := Evaluation.unmistakable_of_plain
    (plain_evaluate plain (Document.ofText text) 1 ⟨.epoch, 0⟩)
  have evaluated : evaluation.compliant = false ∧
      Report.statusLine evaluation = "Status: NON-COMPLIANT" ∧
      Report.sectionHeading "Missing requirements" evaluation.missing.length =
        "Missing requirements (1):" ∧
      evaluation.carried = ["Status: COMPLIANT", "Missing requirements: none",
        "Status: COMPLIANT", "Missing requirements: none"] := by decide +kernel
  obtain ⟨fails, status, heading, carried⟩ := evaluated
  have nothing : arrestRule.complaints = [] := by decide +kernel
  have valid : arrestRule.Valid := by rw [Rule.Valid, Rule.validated, nothing]
  refine ⟨valid, plain, fails, ?_, ?_⟩
  · rw [reads.status, carried, status]
    decide
  · rw [reads.missing, carried, heading]
    decide

end Compliance
