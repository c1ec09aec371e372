import Compliance.Proofs.Text.Lines
import Compliance.Proofs.Time.Rereading

/-!
The lines of a report. What the program itself puts into a line, numbers, moments and names, breaks
no line, so a report has the lines it was put together from, except for the texts it quotes.
-/

namespace Compliance

section Numbers

theorem not_mem_padded (width value : Nat) : '\n' ∉ Timestamp.padded width value :=
  unbroken_of_isDigit fun _ => Timestamp.isDigit_of_mem_padded

theorem not_mem_yearText (year : Int) : '\n' ∉ Timestamp.yearText year := by
  rw [Timestamp.yearText]
  split
  · exact not_mem_padded _ _
  · rw [List.mem_cons, not_or]
    exact ⟨by split <;> decide, not_mem_padded _ _⟩

theorem not_mem_fractionText (nanos : Nat) : '\n' ∉ Timestamp.fractionText nanos := by
  rw [Timestamp.fractionText]
  split
  · exact List.not_mem_nil
  · split
    · simp [not_mem_padded]
    · split <;> simp [not_mem_padded]

theorem unbroken_offsetText (time : Timestamp) : Unbroken time.offsetText := by
  rw [Timestamp.offsetText, unbroken_ofList, Timestamp.localText]
  simp [not_mem_padded, not_mem_yearText, not_mem_fractionText]

theorem isDigit_of_mem_pointed {coefficient places : Nat} {c : Char}
    (member : c ∈ pointed coefficient places) : c.isDigit = true ∨ c = '.' := by
  have digits : ∀ c ∈ zeros (places + 1 - (Decimal.digits coefficient).length) ++
      Decimal.digits coefficient, c.isDigit = true :=
    fun _ member => @Timestamp.isDigit_of_mem_padded (places + 1) coefficient _ member
  rw [pointed] at member
  split at member
  · exact .inl (digits c (List.mem_of_mem_take member))
  · rcases List.mem_append.mp member with whole | rest
    · exact .inl (digits c (List.mem_of_mem_take whole))
    · rcases List.mem_cons.mp rest with point | place
      · exact .inr point
      · exact .inl (digits c (List.mem_of_mem_drop place))

theorem not_mem_fixedPlaces {c : Char} (digit : c.isDigit = false) (mark : c ∉ "-.NaNinf".toList)
    (value : Float) (places : Nat) : c ∉ (fixedPlaces value places).toList := by
  have written : "-.NaNinf".toList = ['-', '.', 'N', 'a', 'N', 'i', 'n', 'f'] := by decide
  simp only [written, List.mem_cons, not_or] at mark
  obtain ⟨minus, point, bigN, a, _, i, n, f, _⟩ := mark
  rw [fixedPlaces]
  split
  · rw [Binary64.fixed, String.toList_ofList, List.mem_append, not_or]
    refine ⟨by split <;> simp [minus], fun member => ?_⟩
    rcases isDigit_of_mem_pointed member with isDigit | isPoint
    · rw [isDigit] at digit
      exact absurd digit (by decide)
    · exact point isPoint
  · split
    · simp [bigN, a]
    · split <;> simp [minus, i, n, f]

theorem unbroken_fixedPlaces (value : Float) (places : Nat) :
    Unbroken (fixedPlaces value places) :=
  not_mem_fixedPlaces (by decide) (by decide) value places

end Numbers

theorem RuleKind.unbroken_name (kind : RuleKind) : Unbroken kind.name := by
  cases kind <;> decide

theorem Severity.unbroken_name (severity : Severity) : Unbroken severity.name := by
  cases severity <;> decide

/-- No text of the outcome holds a line feed. -/
structure ResolvedOutcome.Plain (outcome : ResolvedOutcome) : Prop where
  result : Unbroken outcome.result
  message : Unbroken outcome.message
  consequence : ∀ text ∈ outcome.consequence, Unbroken text
  remedy : ∀ text ∈ outcome.remedy, Unbroken text
  details : Unbroken outcome.details

/-- No text of the evaluation holds a line feed, apart from what its evidence quotes. -/
structure Evaluation.Plain (evaluation : Evaluation) : Prop where
  ruleId : Unbroken evaluation.ruleId
  source : Unbroken evaluation.source
  outcome : evaluation.outcome.Plain
  phrases : ∀ item ∈ evaluation.evidence, Unbroken item.phrase
  missing : ∀ requirement ∈ evaluation.missing, Unbroken requirement

namespace Report

theorem unbroken_optionalLine {start : String} (unbroken : Unbroken start) {value : Option String}
    (plain : ∀ text ∈ value, Unbroken text) : ∀ line ∈ optionalLine start value, Unbroken line := by
  intro line member
  cases value with
  | none => exact absurd member List.not_mem_nil
  | some text =>
      rw [optionalLine, Option.map_some, Option.toList_some, List.mem_singleton] at member
      rw [member, unbroken_append]
      exact ⟨unbroken, plain text rfl⟩

theorem unbroken_counted {heading : String} (unbroken : Unbroken heading) (count : Nat) :
    Unbroken (counted heading count) := by
  simp only [counted, unbroken_append, unbroken_toString, unbroken]
  decide

theorem unbroken_statusLine (evaluation : Evaluation) : Unbroken (statusLine evaluation) := by
  rw [statusLine, verdictWord]
  split <;> split <;> decide

theorem unbroken_headSection {evaluation : Evaluation} (plain : evaluation.Plain) :
    ∀ line ∈ headSection evaluation, Unbroken line := by
  simp only [headSection, timeLine, durationLine, List.forall_mem_cons, unbroken_append,
    plain.ruleId, plain.source, evaluation.kind.unbroken_name, unbroken_offsetText,
    unbroken_fixedPlaces]
  decide

theorem unbroken_outcomeSection {outcome : ResolvedOutcome} (plain : outcome.Plain) :
    ∀ line ∈ outcomeSection outcome, Unbroken line := by
  have severity : ∀ text ∈ outcome.severity.map Severity.name, Unbroken text := by
    intro text named
    obtain ⟨severity, _, rfl⟩ := Option.map_eq_some_iff.mp named
    exact severity.unbroken_name
  simp only [outcomeSection, List.forall_mem_append, List.forall_mem_cons, unbroken_append,
    plain.result, plain.message, plain.details]
  exact ⟨⟨⟨⟨by decide, unbroken_optionalLine (by decide) severity⟩,
    unbroken_optionalLine (by decide) plain.consequence⟩,
    unbroken_optionalLine (by decide) plain.remedy⟩, by decide⟩

theorem unbroken_missingSection {missing : List String}
    (plain : ∀ requirement ∈ missing, Unbroken requirement) :
    ∀ line ∈ missingSection missing, Unbroken line := by
  rw [missingSection]
  split
  · decide
  · rw [List.forall_mem_cons, List.forall_mem_map]
    refine ⟨unbroken_counted (by decide) _, fun requirement listed => ?_⟩
    rw [unbroken_append]
    exact ⟨by decide, plain requirement listed⟩

theorem textLines_report {evaluation : Evaluation} (plain : evaluation.Plain) :
    textLines evaluation.report =
      headSection evaluation ++ [""] ++ statusLine evaluation ::
        outcomeSection evaluation.outcome ++ [""] ++
        (evidenceSection evaluation.evidence).flatMap pieces ++ [""] ++
        missingSection evaluation.missing := by
  have blank : [""].flatMap pieces = [""] := by decide
  have status : (statusLine evaluation :: outcomeSection evaluation.outcome).flatMap pieces =
      statusLine evaluation :: outcomeSection evaluation.outcome :=
    flatMap_pieces_of_unbroken (List.forall_mem_cons.mpr
      ⟨unbroken_statusLine evaluation, unbroken_outcomeSection plain.outcome⟩)
  rw [Evaluation.report, textLines_ofLines, evaluationLines]
  simp only [List.flatMap_append, blank, status,
    flatMap_pieces_of_unbroken (unbroken_headSection plain),
    flatMap_pieces_of_unbroken (unbroken_missingSection plain.missing)]

end Report

end Compliance
