import Compliance.Evidence
import Compliance.Proofs.Text.Normal

/-!
Which phrases a document mentions, without the search that finds them. A phrase is mentioned when
its normal form stands somewhere in the normal form of a sentence; of a blank phrase, whose normal
form stands everywhere, nothing is found.
-/

namespace Compliance

namespace Text

theorem occursIn_iff_infix (needle text : List Char) :
    occursIn needle text = true ↔ needle <:+: text := by
  induction text with
  | nil => simp [occursIn]
  | cons c rest ih =>
      rw [occursIn, Bool.or_eq_true, ih, List.isPrefixOf_iff_prefix, List.infix_cons_iff]

end Text

theorem Document.normalForms_ofText (text : String) :
    (Document.ofText text).normalForms =
      (Text.sentences text.toList).map fun sentence => String.ofList (Text.normal sentence) := by
  simp [Document.ofText, splitSentences, normalForm, Function.comp_def]

/-- The normal form of the phrase is part of a sentence's normal form. -/
def Document.Contains (document : Document) (phrase : String) : Prop :=
  ∃ form ∈ document.normalForms, (normalForm phrase).toList <:+: form.toList

/-- What the search looks for: blank phrases are contained in every sentence but not looked up. -/
def Document.Mentions (document : Document) (phrase : String) : Prop :=
  normalForm phrase ≠ "" ∧ document.Contains phrase

theorem Document.mentions_iff_contains {phrase : String} (document : Document)
    (written : isBlankText phrase = false) :
    document.Mentions phrase ↔ document.Contains phrase := by
  have visible : normalForm phrase ≠ "" := by
    intro empty
    rw [normalForm_eq_empty_iff, written] at empty
    contradiction
  exact and_iff_right visible

theorem Match.isSome_between (needle form : String) :
    (Match.between needle form).isSome = true ↔ needle.toList <:+: form.toList := by
  rw [← Text.occursIn_iff_infix, Match.between]
  split
  · rename_i absent
    simpa using absent
  · rename_i present
    have occurs : Text.occursIn needle.toList form.toList = true := by simpa using present
    split
    · simp [occurs]
    · split <;> simp [occurs]

theorem Evidence.isSome_at? (radius : Nat) (phrase needle : String) (sentences : List String)
    (sentence form : String) (index : Nat) :
    (Evidence.at? radius phrase needle sentences sentence form index).isSome = true ↔
      needle.toList <:+: form.toList := by
  rw [Evidence.at?, Option.isSome_map, Match.isSome_between]

theorem Evidence.sentenceIndex_of_at? {radius index : Nat} {phrase needle sentence form : String}
    {sentences : List String} {evidence : Evidence}
    (given : at? radius phrase needle sentences sentence form index = some evidence) :
    evidence.sentenceIndex = index := by
  obtain ⟨_, _, rfl⟩ := Option.map_eq_some_iff.mp given
  rfl

theorem Evidence.mem_scan_iff {radius : Nat} {phrase : String} {sentences forms : List String}
    {evidence : Evidence} : evidence ∈ scan radius phrase sentences forms ↔
      normalForm phrase ≠ "" ∧ ∃ index sentence form,
        sentences[index]? = some sentence ∧ forms[index]? = some form ∧
          at? radius phrase (normalForm phrase) sentences sentence form index = some evidence := by
  rw [scan]
  by_cases blank : normalForm phrase = ""
  · simp [blank]
  · have searched : (normalForm phrase).isEmpty = false := by simpa using blank
    simp only [searched, Bool.false_eq_true, ↓reduceIte, List.mem_filterMap, ne_eq, blank,
      not_false_eq_true, true_and]
    constructor
    · rintro ⟨⟨⟨sentence, form⟩, index⟩, listed, given⟩
      obtain ⟨there, shown⟩ :=
        List.getElem?_zip_eq_some.mp (List.mk_mem_zipIdx_iff_getElem?.mp listed)
      exact ⟨index, sentence, form, there, shown, given⟩
    · rintro ⟨index, sentence, form, there, shown, given⟩
      exact ⟨((sentence, form), index), List.mk_mem_zipIdx_iff_getElem?.mpr
        (List.getElem?_zip_eq_some.mpr ⟨there, shown⟩), given⟩

theorem Evidence.of_mem_scan {radius : Nat} {phrase : String} {sentences forms : List String}
    {evidence : Evidence} (found : evidence ∈ scan radius phrase sentences forms) :
    evidence.phrase = phrase ∧ sentences[evidence.sentenceIndex]? = some evidence.sentence ∧
      evidence.context = contextWindow radius sentences evidence.sentenceIndex := by
  obtain ⟨_, index, sentence, form, there, _, given⟩ := mem_scan_iff.mp found
  obtain ⟨_, _, rfl⟩ := Option.map_eq_some_iff.mp given
  exact ⟨rfl, there, rfl⟩

theorem Evidence.exists_mem_scan_iff (radius : Nat) (phrase : String)
    (sentences forms : List String) (size : forms.length = sentences.length) (index : Nat) :
    (∃ evidence ∈ scan radius phrase sentences forms, evidence.sentenceIndex = index) ↔
      normalForm phrase ≠ "" ∧
        ∃ form, forms[index]? = some form ∧ (normalForm phrase).toList <:+: form.toList := by
  constructor
  · rintro ⟨evidence, found, rfl⟩
    obtain ⟨written, index, sentence, form, _, shown, given⟩ := mem_scan_iff.mp found
    rw [sentenceIndex_of_at? given]
    refine ⟨written, form, shown, ?_⟩
    rw [← isSome_at? radius phrase (normalForm phrase) sentences sentence form index, given]
    rfl
  · rintro ⟨written, form, shown, contained⟩
    have below : index < sentences.length := size ▸ (List.getElem?_eq_some_iff.mp shown).1
    rw [← isSome_at? radius phrase (normalForm phrase) sentences sentences[index] form index]
      at contained
    obtain ⟨evidence, given⟩ := Option.isSome_iff_exists.mp contained
    exact ⟨evidence, mem_scan_iff.mpr ⟨written, index, _, form, List.getElem?_eq_getElem below,
      shown, given⟩, sentenceIndex_of_at? given⟩

theorem Evidence.scan_ne_nil_iff (radius : Nat) (phrase : String) (sentences forms : List String)
    (size : forms.length = sentences.length) :
    Evidence.scan radius phrase sentences forms ≠ [] ↔
      normalForm phrase ≠ "" ∧ ∃ form ∈ forms, (normalForm phrase).toList <:+: form.toList := by
  have atIndex := exists_mem_scan_iff radius phrase sentences forms size
  constructor
  · intro found
    obtain ⟨evidence, listed⟩ := List.exists_mem_of_ne_nil _ found
    obtain ⟨visible, form, there, contained⟩ :=
      (atIndex evidence.sentenceIndex).mp ⟨evidence, listed, rfl⟩
    exact ⟨visible, form, List.mem_of_getElem? there, contained⟩
  · rintro ⟨visible, form, listed, contained⟩
    obtain ⟨index, there⟩ := List.mem_iff_getElem?.mp listed
    obtain ⟨evidence, found, _⟩ := (atIndex index).mpr ⟨visible, form, there, contained⟩
    exact List.ne_nil_of_mem found

theorem Document.find_ne_nil_iff (document : Document) (radius : Nat) (phrase : String) :
    document.find radius phrase ≠ [] ↔ document.Mentions phrase := by
  refine Evidence.scan_ne_nil_iff radius phrase document.sentences document.normalForms ?_
  rw [document.normalForms_eq, List.length_map]

end Compliance
