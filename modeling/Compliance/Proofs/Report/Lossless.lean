import Compliance.Proofs.Report.Quotation
import Mathlib.Data.Set.Function

/-!
What can be read off the report of an evaluation. Where no text in it holds a line feed, the lines
of a report can be told apart, and two evaluations have one report just if they agree in all but
what durations and confidences lose when they are rounded.
-/

namespace Compliance

section Marks

variable {mark : Char} {left right before after : List Char}

theorem append_first_mark_inj (leftFree : mark ∉ left) (rightFree : mark ∉ right) :
    left ++ mark :: before = right ++ mark :: after ↔ left = right ∧ before = after := by
  refine ⟨fun same => ?_, fun ⟨start, rest⟩ => by rw [start, rest]⟩
  induction left generalizing right with
  | nil =>
      cases right with
      | nil => exact ⟨rfl, (List.cons.inj same).2⟩
      | cons c others =>
          have first : mark = c := (List.cons.inj same).1
          exact absurd (first ▸ List.mem_cons_self) rightFree
  | cons c others ih =>
      have othersFree : mark ∉ others := fun member => leftFree (List.mem_cons_of_mem c member)
      cases right with
      | nil =>
          have first : c = mark := (List.cons.inj same).1
          exact absurd (first ▸ List.mem_cons_self) leftFree
      | cons d rest =>
          have restFree : mark ∉ rest := fun member => rightFree (List.mem_cons_of_mem d member)
          obtain ⟨first, later⟩ := List.cons.inj same
          obtain ⟨start, tails⟩ := ih othersFree restFree later
          exact ⟨by rw [first, start], tails⟩

theorem append_last_mark_inj (beforeFree : mark ∉ before) (afterFree : mark ∉ after) :
    left ++ mark :: before = right ++ mark :: after ↔ left = right ∧ before = after := by
  refine ⟨fun same => ?_, fun ⟨start, rest⟩ => by rw [start, rest]⟩
  have reversed : before.reverse ++ mark :: left.reverse =
      after.reverse ++ mark :: right.reverse := by
    have backwards := congrArg List.reverse same
    simpa using backwards
  have free : mark ∉ before.reverse ∧ mark ∉ after.reverse := by
    simpa using And.intro beforeFree afterFree
  obtain ⟨tails, starts⟩ := (append_first_mark_inj free.1 free.2).mp reversed
  exact ⟨List.reverse_injective starts, List.reverse_injective tails⟩

end Marks

theorem toString_inj {left right : Nat} : toString left = toString right ↔ left = right := by
  refine ⟨fun same => ?_, congrArg toString⟩
  have digits : Nat.toDigits 10 left = Nat.toDigits 10 right := by
    have spelled : left.repr.toList = right.repr.toList := congrArg String.toList same
    rwa [Nat.toList_repr, Nat.toList_repr] at spelled
  have value : Nat.ofDigitChars 10 (Nat.toDigits 10 left) 0 =
      Nat.ofDigitChars 10 (Nat.toDigits 10 right) 0 := by rw [digits]
  rwa [Nat.ofDigitChars_ten_toDigits, Nat.ofDigitChars_ten_toDigits] at value

theorem not_mem_toString {mark : Char} (other : mark.isDigit = false) (number : Nat) :
    mark ∉ (toString number).toList := by
  intro member
  have digits : mark ∈ Nat.toDigits 10 number := by
    rwa [← Nat.toList_repr]
  rw [Nat.isDigit_of_mem_toDigits (by decide) (by decide) digits] at other
  exact absurd other (by decide)

theorem RuleKind.name_inj {left right : RuleKind} : left.name = right.name ↔ left = right := by
  cases left <;> cases right <;> decide

theorem Severity.name_inj {left right : Severity} : left.name = right.name ↔ left = right := by
  cases left <;> cases right <;> decide

theorem ResolvedOutcome.eq_iff {left right : ResolvedOutcome} : left = right ↔
    left.result = right.result ∧ left.message = right.message ∧ left.severity = right.severity ∧
      left.consequence = right.consequence ∧ left.remedy = right.remedy ∧
      left.details = right.details := by
  obtain ⟨⟨_, _, _, _, _⟩, _⟩ := left
  obtain ⟨⟨_, _, _, _, _⟩, _⟩ := right
  simp only [ResolvedOutcome.mk.injEq, Outcome.mk.injEq, and_assoc]

/-- Agreement in all that a report says of a piece of evidence. -/
structure Evidence.Coincides (left right : Evidence) : Prop where
  phrase : left.phrase = right.phrase
  sentence : left.sentence = right.sentence
  sentenceIndex : left.sentenceIndex = right.sentenceIndex
  context : left.context = right.context
  confidence : fixedPlaces (left.confidence * 100.0) 0 = fixedPlaces (right.confidence * 100.0) 0

/-- Agreement in all that a report says of an evaluation. -/
structure Evaluation.Coincides (left right : Evaluation) : Prop where
  ruleId : left.ruleId = right.ruleId
  source : left.source = right.source
  kind : left.kind = right.kind
  time : left.time = right.time
  compliant : left.compliant = right.compliant
  vacuous : left.vacuous = right.vacuous
  outcome : left.outcome = right.outcome
  missing : left.missing = right.missing
  evidence : List.Forall₂ Evidence.Coincides left.evidence right.evidence
  milliseconds : fixedPlaces left.milliseconds 3 = fixedPlaces right.milliseconds 3

/-- No text of the evaluation holds a line feed. -/
structure Evaluation.AllPlain (evaluation : Evaluation) : Prop extends evaluation.Plain where
  sentences : ∀ item ∈ evaluation.evidence, Unbroken item.sentence
  contexts : ∀ item ∈ evaluation.evidence, Unbroken item.context

namespace Report

section Sections

/-- The next line does not begin like this, so it is not taken for the optional one. -/
def Skips (start : String) (lines : List String) : Prop :=
  ∀ line ∈ lines.head?, begins start line = false

theorem skips_line {mark start : String} (distinct : apart mark start = true) (text : String)
    (rest : List String) : Skips mark ((start ++ text) :: rest) := by
  rintro _ ⟨⟩
  exact begins_append_of_apart distinct text

theorem skips_optionalLine {mark start : String} (distinct : apart mark start = true)
    {value : Option String} {rest : List String} (skips : Skips mark rest) :
    Skips mark (optionalLine start value ++ rest) := by
  cases value with
  | none => exact skips
  | some text => exact skips_line distinct text rest

theorem optionalLine_append_inj {start : String} {left right : Option String}
    {before after : List String} (leftSkips : Skips start before)
    (rightSkips : Skips start after) :
    optionalLine start left ++ before = optionalLine start right ++ after ↔
      left = right ∧ before = after := by
  refine ⟨fun same => ?_, fun ⟨value, rest⟩ => by rw [value, rest]⟩
  cases left with
  | none =>
      cases right with
      | none => exact ⟨rfl, same⟩
      | some text =>
          have first : before = (start ++ text) :: after := same
          have missed : begins start (start ++ text) = false := leftSkips _ (by rw [first]; rfl)
          rw [begins_append] at missed
          exact absurd missed (by decide)
  | some text =>
      cases right with
      | none =>
          have first : (start ++ text) :: before = after := same
          have missed : begins start (start ++ text) = false := rightSkips _ (by rw [← first]; rfl)
          rw [begins_append] at missed
          exact absurd missed (by decide)
      | some other =>
          obtain ⟨line, rest⟩ := List.cons.inj same
          rw [String.append_right_inj] at line
          exact ⟨congrArg some line, rest⟩

theorem headSection_inj {left right : Evaluation} : headSection left = headSection right ↔
    left.ruleId = right.ruleId ∧ left.source = right.source ∧ left.kind = right.kind ∧
      left.time.offsetText = right.time.offsetText ∧
      fixedPlaces left.milliseconds 3 = fixedPlaces right.milliseconds 3 := by
  simp only [headSection, timeLine, durationLine, List.cons.injEq, String.append_left_inj,
    String.append_right_inj, RuleKind.name_inj, and_true]

theorem statusLine_inj {left right : Evaluation} : statusLine left = statusLine right ↔
    left.compliant = right.compliant ∧ left.vacuous = right.vacuous := by
  simp only [statusLine]
  cases left.compliant <;> cases left.vacuous <;> cases right.compliant <;>
    cases right.vacuous <;> decide

theorem skips_remedy (outcome : ResolvedOutcome) (rest : List String) :
    Skips "Remedy: " (("Details: " ++ outcome.details) :: rest) :=
  skips_line (by decide) outcome.details rest

theorem skips_consequence (outcome : ResolvedOutcome) (rest : List String) :
    Skips "Consequence: " (optionalLine "Remedy: " outcome.remedy ++
      ("Details: " ++ outcome.details) :: rest) :=
  skips_optionalLine (by decide) (skips_line (by decide) outcome.details rest)

theorem skips_severity (outcome : ResolvedOutcome) (rest : List String) :
    Skips "Severity: " (optionalLine "Consequence: " outcome.consequence ++
      (optionalLine "Remedy: " outcome.remedy ++ ("Details: " ++ outcome.details) :: rest)) :=
  skips_optionalLine (by decide)
    (skips_optionalLine (by decide) (skips_line (by decide) outcome.details rest))

theorem outcomeSection_append_inj {left right : ResolvedOutcome} {before after : List String} :
    outcomeSection left ++ before = outcomeSection right ++ after ↔
      left = right ∧ before = after := by
  have grave : left.severity.map Severity.name = right.severity.map Severity.name ↔
      left.severity = right.severity :=
    (Option.map_injective fun _ _ => Severity.name_inj.mp).eq_iff
  simp only [outcomeSection, List.append_assoc, List.cons_append, List.nil_append,
    List.cons.injEq, String.append_right_inj]
  rw [optionalLine_append_inj (skips_severity left before) (skips_severity right after),
    optionalLine_append_inj (skips_consequence left before) (skips_consequence right after),
    optionalLine_append_inj (skips_remedy left before) (skips_remedy right after), grave,
    List.cons.injEq, String.append_right_inj, ResolvedOutcome.eq_iff]
  simp only [and_assoc]

theorem sectionHeading_inj {label : String} {left right : Nat} :
    sectionHeading label left = sectionHeading label right ↔ left = right := by
  refine ⟨fun same => ?_, congrArg (sectionHeading label)⟩
  by_cases nothing : left = 0
  · rw [(sectionHeading_eq_none_iff label left).mpr nothing] at same
    rw [nothing, (sectionHeading_eq_none_iff label right).mp same.symm]
  · have some : right ≠ 0 := by
      intro none
      rw [(sectionHeading_eq_none_iff label right).mpr none] at same
      exact nothing ((sectionHeading_eq_none_iff label left).mp same)
    rw [sectionHeading, sectionHeading, if_neg nothing, if_neg some, counted, counted,
      String.append_left_inj, String.append_right_inj] at same
    exact toString_inj.mp same

/-- How a piece of evidence is told of after the quotation mark that closes its phrase. -/
def afterPhrase (item : Evidence) : String :=
  " in sentence " ++ toString (item.sentenceIndex + 1) ++ " (" ++
    fixedPlaces (item.confidence * 100.0) 0 ++ "% confidence)"

theorem evidenceLines_eq (number : Nat) (item : Evidence) : evidenceLines number item =
    ["  " ++ toString number ++ ". \"" ++ (item.phrase ++ ("\"" ++ afterPhrase item)),
      "     Sentence: " ++ item.sentence, "     Context: " ++ item.context] := by
  have mark : "\" in sentence " = "\"" ++ " in sentence " := by decide
  simp only [evidenceLines, afterPhrase, mark, String.append_assoc]

theorem not_mem_afterPhrase (item : Evidence) : '"' ∉ (afterPhrase item).toList := by
  have index : '"' ∉ (toString (item.sentenceIndex + 1)).toList :=
    not_mem_toString (by decide) (item.sentenceIndex + 1)
  have confidence : '"' ∉ (fixedPlaces (item.confidence * 100.0) 0).toList :=
    not_mem_fixedPlaces (by decide) (by decide) _ 0
  simp only [afterPhrase, String.toList_append, List.mem_append, not_or, index, confidence]
  decide

theorem afterPhrase_inj {left right : Evidence} : afterPhrase left = afterPhrase right ↔
    left.sentenceIndex = right.sentenceIndex ∧
      fixedPlaces (left.confidence * 100.0) 0 = fixedPlaces (right.confidence * 100.0) 0 := by
  have spelled (item : Evidence) : (afterPhrase item).toList = " in sentence ".toList ++
      ((toString (item.sentenceIndex + 1)).toList ++ ' ' ::
        ('(' :: (fixedPlaces (item.confidence * 100.0) 0).toList ++ "% confidence)".toList)) := by
    have mark : " (".toList = [' ', '('] := by decide
    simp only [afterPhrase, String.toList_append, mark, List.append_assoc, List.cons_append,
      List.nil_append]
  rw [← String.toList_inj, spelled, spelled, List.append_right_inj,
    append_first_mark_inj (not_mem_toString (by decide) _) (not_mem_toString (by decide) _),
    String.toList_inj, toString_inj, Nat.add_right_cancel_iff, List.append_left_inj,
    List.cons.injEq, String.toList_inj]
  simp only [true_and]

theorem evidenceLines_inj {number : Nat} {left right : Evidence} :
    evidenceLines number left = evidenceLines number right ↔ left.Coincides right := by
  have phrased : left.phrase ++ ("\"" ++ afterPhrase left) =
        right.phrase ++ ("\"" ++ afterPhrase right) ↔
      left.phrase = right.phrase ∧ afterPhrase left = afterPhrase right := by
    have mark (text : String) : ("\"" ++ text).toList = '"' :: text.toList := by
      rw [String.toList_append]
      rfl
    have spelled (item : Evidence) : (item.phrase ++ ("\"" ++ afterPhrase item)).toList =
        item.phrase.toList ++ '"' :: (afterPhrase item).toList := by
      rw [String.toList_append, mark]
    rw [← String.toList_inj, spelled, spelled,
      append_last_mark_inj (not_mem_afterPhrase left) (not_mem_afterPhrase right),
      String.toList_inj, String.toList_inj]
  simp only [evidenceLines_eq, List.cons.injEq, String.append_right_inj, phrased,
    afterPhrase_inj, and_true]
  constructor
  · rintro ⟨⟨phrase, sentenceIndex, confidence⟩, sentence, context⟩
    exact ⟨phrase, sentence, sentenceIndex, context, confidence⟩
  · rintro ⟨phrase, sentence, sentenceIndex, context, confidence⟩
    exact ⟨⟨phrase, sentenceIndex, confidence⟩, sentence, context⟩

theorem append_inj_of_length {left right before after : List String}
    (count : left.length = right.length) :
    left ++ before = right ++ after ↔ left = right ∧ before = after :=
  ⟨fun same => List.append_inj same count, fun ⟨start, rest⟩ => by rw [start, rest]⟩

theorem numberedLines_append_inj {left right : List Evidence} (count : left.length = right.length)
    (first : Nat) {before after : List String} :
    ((left.zipIdx first).flatMap fun entry => evidenceLines (entry.2 + 1) entry.1) ++ before =
        ((right.zipIdx first).flatMap fun entry => evidenceLines (entry.2 + 1) entry.1) ++ after ↔
      List.Forall₂ Evidence.Coincides left right ∧ before = after := by
  induction left generalizing right first with
  | nil =>
      rw [List.length_nil, eq_comm, List.length_eq_zero_iff] at count
      rw [count]
      simp only [List.zipIdx_nil, List.flatMap_nil, List.nil_append, List.Forall₂.nil, true_and]
  | cons item items ih =>
      cases right with
      | nil => exact absurd count (Nat.succ_ne_zero items.length)
      | cons other others =>
          have rest : items.length = others.length := Nat.succ.inj count
          have three (item : Evidence) : (evidenceLines (first + 1) item).length = 3 := rfl
          have size : (evidenceLines (first + 1) item).length =
              (evidenceLines (first + 1) other).length := by rw [three, three]
          simp only [List.zipIdx_cons, List.flatMap_cons, List.append_assoc, List.forall₂_cons]
          rw [append_inj_of_length size, evidenceLines_inj, ih rest (first + 1), and_assoc]

theorem evidenceSection_append_inj {left right : List Evidence} {before after : List String} :
    evidenceSection left ++ before = evidenceSection right ++ after ↔
      List.Forall₂ Evidence.Coincides left right ∧ before = after := by
  rw [evidenceSection_eq, evidenceSection_eq, List.cons_append, List.cons_append, List.cons.injEq,
    sectionHeading_inj]
  constructor
  · rintro ⟨count, same⟩
    exact (numberedLines_append_inj count 0).mp same
  · rintro ⟨evidence, rest⟩
    have count : left.length = right.length := evidence.length_eq
    exact ⟨count, (numberedLines_append_inj count 0).mpr ⟨evidence, rest⟩⟩

theorem missingSection_inj {left right : List String} :
    missingSection left = missingSection right ↔ left = right := by
  refine ⟨fun same => ?_, congrArg missingSection⟩
  rw [missingSection_eq, missingSection_eq] at same
  have injective : Function.Injective fun requirement => "  - " ++ requirement :=
    fun _ _ listed => (String.append_right_inj "  - ").mp listed
  exact List.map_injective_iff.mpr injective (List.cons.inj same).2

end Sections

theorem evaluationLines_inj {left right : Evaluation}
    (moments : left.time.offsetText = right.time.offsetText ↔ left.time = right.time) :
    evaluationLines left = evaluationLines right ↔ left.Coincides right := by
  have size : (headSection left).length = (headSection right).length := rfl
  simp only [evaluationLines, List.append_assoc, List.cons_append, List.nil_append]
  -- the head has a fixed length; every later section is told from what follows it by its own lines
  rw [append_inj_of_length size, headSection_inj, moments]
  simp only [List.cons.injEq, statusLine_inj, outcomeSection_append_inj,
    evidenceSection_append_inj, missingSection_inj, true_and]
  constructor
  · rintro ⟨⟨ruleId, source, kind, time, milliseconds⟩, ⟨compliant, vacuous⟩, outcome, evidence,
      missing⟩
    exact ⟨ruleId, source, kind, time, compliant, vacuous, outcome, missing, evidence, milliseconds⟩
  · rintro ⟨ruleId, source, kind, time, compliant, vacuous, outcome, missing, evidence,
      milliseconds⟩
    exact ⟨⟨ruleId, source, kind, time, milliseconds⟩, ⟨compliant, vacuous⟩, outcome, evidence,
      missing⟩

theorem unbroken_evidenceSection {evidence : List Evidence}
    (phrases : ∀ item ∈ evidence, Unbroken item.phrase)
    (sentences : ∀ item ∈ evidence, Unbroken item.sentence)
    (contexts : ∀ item ∈ evidence, Unbroken item.context) :
    ∀ line ∈ evidenceSection evidence, Unbroken line := by
  rw [evidenceSection_eq, List.forall_mem_cons]
  refine ⟨unbroken_sectionHeading (by decide) _, fun line member => ?_⟩
  obtain ⟨⟨item, index⟩, numbered, told⟩ := List.mem_flatMap.mp member
  have listed : item ∈ evidence := List.fst_mem_of_mem_zipIdx numbered
  simp only [evidenceLines, List.mem_cons, List.not_mem_nil, or_false] at told
  rcases told with rfl | rfl | rfl
  · exact unbroken_evidenceLine (phrases item listed) (index + 1)
  · exact (unbroken_append _ _).mpr ⟨by decide, sentences item listed⟩
  · exact (unbroken_append _ _).mpr ⟨by decide, contexts item listed⟩

theorem textLines_report_of_allPlain {evaluation : Evaluation} (plain : evaluation.AllPlain) :
    textLines evaluation.report = evaluationLines evaluation := by
  have evidence : (evidenceSection evaluation.evidence).flatMap pieces =
      evidenceSection evaluation.evidence :=
    flatMap_pieces_of_unbroken
      (unbroken_evidenceSection plain.phrases plain.sentences plain.contexts)
  rw [textLines_report plain.toPlain, evidence, evaluationLines]

end Report

theorem Timestamp.injOn_offsetText :
    Set.InjOn Timestamp.offsetText {time | time.Proper} :=
  fun _ leftProper _ rightProper => (offsetText_inj leftProper rightProper).mp

namespace Evaluation

/-- The report is lossless, as far as the texts of moments tell these apart: evaluations with the
same report agree in all but what is lost in the rounding of durations and confidences. -/
theorem report_eq_iff_coincides {moments : Set Timestamp}
    (distinct : Set.InjOn Timestamp.offsetText moments) {left right : Evaluation}
    (leftTime : left.time ∈ moments) (rightTime : right.time ∈ moments)
    (leftPlain : left.AllPlain) (rightPlain : right.AllPlain) :
    left.report = right.report ↔ left.Coincides right := by
  have lines : left.report = right.report ↔
      Report.evaluationLines left = Report.evaluationLines right := by
    refine ⟨fun same => ?_, congrArg Report.ofLines⟩
    have read : textLines left.report = textLines right.report := congrArg textLines same
    rwa [Report.textLines_report_of_allPlain leftPlain,
      Report.textLines_report_of_allPlain rightPlain] at read
  rw [lines, Report.evaluationLines_inj (distinct.eq_iff leftTime rightTime)]

def warned (phrase : String) (consequence remedy : Option String) : Evaluation where
  ruleId := "arrest"
  source := "Code, s. 35"
  kind := .mandatoryProcedure
  compliant := false
  vacuous := false
  evidence := [⟨phrase, "A ground was given", 0, "A ground was given", 0.9⟩]
  missing := []
  outcome := { result := "unlawful", message := "No ground", severity := some .warning,
               consequence, remedy, details := "Nothing more" }
  milliseconds := 0.0
  time := Timestamp.epoch

theorem proper_warned (phrase : String) (consequence remedy : Option String) :
    (warned phrase consequence remedy).time ∈ {time : Timestamp | time.Proper} :=
  Timestamp.proper_epoch

theorem allPlain_warned {phrase : String} {consequence remedy : Option String}
    (plain : Unbroken phrase) (threat : ∀ text ∈ consequence, Unbroken text)
    (advice : ∀ text ∈ remedy, Unbroken text) : (warned phrase consequence remedy).AllPlain where
  ruleId := show Unbroken "arrest" by decide
  source := show Unbroken "Code, s. 35" by decide
  outcome := ⟨show Unbroken "unlawful" by decide, show Unbroken "No ground" by decide, threat,
    advice, show Unbroken "Nothing more" by decide⟩
  phrases := List.forall_mem_singleton.mpr plain
  missing := List.forall_mem_nil Unbroken
  sentences := List.forall_mem_singleton.mpr (show Unbroken "A ground was given" by decide)
  contexts := List.forall_mem_singleton.mpr (show Unbroken "A ground was given" by decide)

/-- A phrase can go on like the line that quotes it, and a consequence can look like a remedy. -/
theorem report_eq_iff_coincides_imitated :
    Timestamp.epoch.Proper ∧ Unbroken "ground\" in sentence 1 (90% confidence)" ∧
      (warned "ground" none (some "appeal")).report ≠
        (warned "ground\" in sentence 1 (90% confidence)" none (some "appeal")).report ∧
      (warned "ground" none (some "appeal")).report ≠
        (warned "ground" (some "Remedy: appeal") none).report := by
  have unbroken : Unbroken "ground\" in sentence 1 (90% confidence)" := by decide
  have first : (warned "ground" none (some "appeal")).AllPlain :=
    allPlain_warned (by decide) (by decide) (by decide)
  have second : (warned "ground\" in sentence 1 (90% confidence)" none (some "appeal")).AllPlain :=
    allPlain_warned unbroken (by decide) (by decide)
  have third : (warned "ground" (some "Remedy: appeal") none).AllPlain :=
    allPlain_warned (by decide) (by decide) (by decide)
  refine ⟨Timestamp.proper_epoch, unbroken, fun same => ?_, fun same => ?_⟩
  · have agree := (report_eq_iff_coincides Timestamp.injOn_offsetText (proper_warned _ _ _)
      (proper_warned _ _ _) first second).mp same
    have phrase : "ground" = "ground\" in sentence 1 (90% confidence)" :=
      (List.forall₂_cons.mp agree.evidence).1.phrase
    exact absurd phrase (by decide)
  · have agree := (report_eq_iff_coincides Timestamp.injOn_offsetText (proper_warned _ _ _)
      (proper_warned _ _ _) first third).mp same
    have consequence : none = some "Remedy: appeal" :=
      congrArg (fun outcome => outcome.consequence) agree.outcome
    exact absurd consequence (by decide)

end Evaluation

end Compliance
