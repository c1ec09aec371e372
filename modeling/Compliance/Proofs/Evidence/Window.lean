import Compliance.Proofs.Mention
import Compliance.Proofs.Text.Segments

/-!
The sentences around a match. Wherever a search finds something there is a window of sentences
around it, which ends where the list does or `radius` sentences away. In a document the window's
text is just its sentences with a space between two of them.
-/

namespace Compliance

section Slices

variable {α : Type} {items taken : List α} {first last : Nat}

theorem slice?_eq_some_iff : slice? items first last = some taken ↔
    (first ≤ last + 1 ∧ last < items.length ∧ last + 1 < wordCount) ∧
      (items.drop first).take (last + 1 - first) = taken := by
  rw [slice?]
  split
  · rename_i range
    simp [range]
  · rename_i outside
    simp [outside]

theorem exists_around_of_slice? (cut : slice? items first last = some taken) :
    ∃ before after, items = before ++ taken ++ after ∧ before.length = first ∧
      (before ++ taken).length = last + 1 := by
  obtain ⟨⟨ordered, inside, _⟩, rfl⟩ := slice?_eq_some_iff.mp cut
  have upTo : items.take first ++ (items.drop first).take (last + 1 - first) =
      items.take (last + 1) := by
    rw [← List.take_add, Nat.add_sub_of_le ordered]
  refine ⟨items.take first, items.drop (last + 1), ?_, ?_, ?_⟩
  · rw [upTo, List.take_append_drop]
  · exact List.length_take_of_le (by omega)
  · rw [upTo]
    exact List.length_take_of_le inside

end Slices

section Windows

variable {radius index : Nat} {sentences window : List String} {sentence : String}

/-- The window is a range of the sentences: from `radius` before the index, or from the start, to
`radius` after it, or to the end. -/
structure Spans (radius : Nat) (sentences : List String) (index : Nat) (window : List String) :
    Prop where
  taken : window? radius sentences index = some window
  cut : ∃ before after, sentences = before ++ window ++ after ∧ before.length = index - radius ∧
    (before ++ window).length = min (sentences.length - 1) (index + radius) + 1

theorem mem_of_mem_window? (taken : window? radius sentences index = some window)
    (listed : sentence ∈ window) : sentence ∈ sentences := by
  obtain ⟨before, after, rfl, _⟩ := exists_around_of_slice? taken
  exact List.mem_append_left after (List.mem_append_right before listed)

theorem exists_spans (radius : Nat) (held : sentences.length < wordCount)
    (below : index < sentences.length) : ∃ window, Spans radius sentences index window := by
  -- the largest word is no index, so that it does not matter where the sum is cut off
  have last : min (saturatingAdd index radius) (sentences.length - 1) =
      min (sentences.length - 1) (index + radius) := by
    rw [saturatingAdd]
    omega
  have range : index - radius ≤ min (sentences.length - 1) (index + radius) + 1 ∧
      min (sentences.length - 1) (index + radius) < sentences.length ∧
      min (sentences.length - 1) (index + radius) + 1 < wordCount := by
    omega
  have taken := slice?_eq_some_iff.mpr ⟨range, rfl⟩
  refine ⟨_, ?_, exists_around_of_slice? taken⟩
  rw [window?, last]
  exact taken

theorem Spans.mem (spans : Spans radius sentences index window)
    (there : sentences[index]? = some sentence) : sentence ∈ window := by
  obtain ⟨before, after, parted, start, stop⟩ := spans.cut
  have below : index < sentences.length := (List.getElem?_eq_some_iff.mp there).1
  rw [parted, List.getElem?_append_left (by omega), List.getElem?_append_right (by omega)] at there
  exact List.mem_of_getElem? there

theorem Spans.whole (spans : Spans radius sentences index window)
    (below : index < sentences.length) (wide : sentences.length - 1 ≤ radius) :
    window = sentences := by
  obtain ⟨before, after, parted, start, stop⟩ := spans.cut
  have opening : before = [] := List.length_eq_zero_iff.mp (by omega)
  have size := congrArg List.length parted
  rw [List.length_append] at size
  have rest : after = [] := List.length_eq_zero_iff.mp (by omega)
  rw [parted, opening, rest, List.nil_append, List.append_nil]

end Windows

namespace Text

theorem infix_intercalate (separator : List Char) {piece : List Char} {pieces : List (List Char)}
    (listed : piece ∈ pieces) : piece <:+: List.intercalate separator pieces := by
  induction pieces with
  | nil => exact absurd listed List.not_mem_nil
  | cons first others ih =>
      cases others with
      | nil => simp [List.mem_singleton.mp listed]
      | cons second rest =>
          rw [List.intercalate_cons_cons]
          rcases List.mem_cons.mp listed with rfl | later
          · exact (List.prefix_append _ _).isInfix.trans (List.prefix_append _ _).isInfix
          · exact (ih later).trans (List.suffix_append _ _).isInfix

theorem Flush.between {left right : List Char} (opening : Flush left) (closing : Flush right)
    (begun : left ≠ []) (ended : right ≠ []) (middle : List Char) :
    Flush (left ++ middle ++ right) where
  opens := by
    rw [List.append_assoc, List.head?_append_of_ne_nil _ begun]
    exact opening.opens
  closes := by
    rw [List.getLast?_append_of_ne_nil _ ended]
    exact closing.closes

theorem flush_intercalate {pieces : List (List Char)} (each : ∀ piece ∈ pieces, IsSentence piece)
    (separator : List Char) : Flush (List.intercalate separator pieces) := by
  induction pieces with
  | nil => exact flush_trimmed []
  | cons first others ih =>
      obtain ⟨sentence, rest⟩ := List.forall_mem_cons.mp each
      cases others with
      | nil =>
          rw [List.intercalate_singleton]
          exact sentence.flush
      | cons second later =>
          have inside : second <:+: List.intercalate separator (second :: later) :=
            infix_intercalate separator List.mem_cons_self
          have written : List.intercalate separator (second :: later) ≠ [] := by
            intro empty
            rw [empty, List.infix_nil] at inside
            exact (rest second List.mem_cons_self).written inside
          rw [List.intercalate_cons_cons]
          exact sentence.flush.between (ih rest) sentence.written written separator

end Text

theorem infix_join {sentence : String} {window : List String} (listed : sentence ∈ window) :
    sentence.toList <:+: (" ".intercalate window).toList := by
  rw [String.toList_intercalate]
  exact Text.infix_intercalate _ (List.mem_map_of_mem listed)

theorem trim_join {window : List String}
    (each : ∀ sentence ∈ window, Text.IsSentence sentence.toList) :
    trim (" ".intercalate window) = " ".intercalate window := by
  have flush : Text.Flush (" ".intercalate window).toList := by
    rw [String.toList_intercalate]
    exact Text.flush_intercalate (List.forall_mem_map.mpr each) _
  rw [trim, flush.trimmed_eq, String.ofList_toList]

namespace Evidence

/-- The context is the text of the window, in which the sentence stands. -/
structure InContext (radius : Nat) (sentences : List String) (evidence : Evidence)
    (window : List String) : Prop where
  spans : Spans radius sentences evidence.sentenceIndex window
  joined : evidence.context = " ".intercalate window
  untrimmed : trim (" ".intercalate window) = " ".intercalate window
  listed : evidence.sentence ∈ window
  contained : evidence.sentence.toList <:+: evidence.context.toList
  whole : sentences.length - 1 ≤ radius → evidence.context = " ".intercalate sentences

variable {radius : Nat} {phrase : String} {sentences forms : List String}

theorem exists_window (held : sentences.length < wordCount) {evidence : Evidence}
    (found : evidence ∈ scan radius phrase sentences forms) :
    ∃ window, Spans radius sentences evidence.sentenceIndex window ∧
      evidence.context = trim (" ".intercalate window) := by
  obtain ⟨_, there, context⟩ := of_mem_scan found
  obtain ⟨window, spans⟩ := exists_spans radius held (List.getElem?_eq_some_iff.mp there).1
  rw [contextWindow, spans.taken, Option.getD_some] at context
  exact ⟨window, spans, context⟩

/-- Whatever sentences are searched, and with whatever radius, each match has its window within
them; in a document its context is the window as it stands there. -/
theorem context_exact (radius : Nat) (phrase : String) :
    (∀ sentences forms, sentences.length < wordCount →
      ∀ evidence ∈ scan radius phrase sentences forms,
        ∃ window, Spans radius sentences evidence.sentenceIndex window ∧
          evidence.context = trim (" ".intercalate window)) ∧
      ∀ text, (Document.ofText text).sentences.length < wordCount →
        ∀ evidence ∈ (Document.ofText text).find radius phrase,
          ∃ window, InContext radius (Document.ofText text).sentences evidence window := by
  refine ⟨fun _ _ held _ found => exists_window held found, ?_⟩
  intro text held evidence found
  obtain ⟨window, spans, context⟩ := exists_window held found
  obtain ⟨_, there, _⟩ := of_mem_scan found
  have each : ∀ sentence ∈ window, Text.IsSentence sentence.toList := fun sentence listed =>
    isSentence_of_mem_splitSentences (mem_of_mem_window? spans.taken listed)
  have joined : evidence.context = " ".intercalate window := context.trans (trim_join each)
  refine ⟨window, spans, joined, trim_join each, spans.mem there, ?_, ?_⟩
  · rw [joined]
    exact infix_join (spans.mem there)
  · intro wide
    rw [joined, spans.whole (List.getElem?_eq_some_iff.mp there).1 wide]

/-- The largest radius reaches past both ends. -/
theorem context_exact_widest :
    (Document.ofText "Stopped. He\u00a0ran! Arrested?").sentences.length < wordCount ∧
      ∃ evidence ∈
        (Document.ofText "Stopped. He\u00a0ran! Arrested?").find (wordCount - 1) "HE RAN",
        evidence.sentenceIndex = 1 ∧ evidence.context = "Stopped He\u00a0ran Arrested" := by
  have held : (Document.ofText "Stopped. He\u00a0ran! Arrested?").sentences.length < wordCount := by
    decide +kernel
  have indices : ((Document.ofText "Stopped. He\u00a0ran! Arrested?").find (wordCount - 1)
      "HE RAN").map sentenceIndex = [1] := by decide +kernel
  obtain ⟨evidence, found, index⟩ := List.mem_map.mp (indices ▸ List.mem_singleton_self 1)
  obtain ⟨window, inContext⟩ := (context_exact (wordCount - 1) "HE RAN").2 _ held evidence found
  refine ⟨held, evidence, found, index, ?_⟩
  rw [inContext.whole (by decide +kernel)]
  decide +kernel

end Evidence

end Compliance
