import Compliance.Proofs.Except
import Compliance.Proofs.Keyed
import Compliance.Proofs.Yaml.Number

/-!
What a settings file says. A record has its fields under their names or, written as a sequence, at
their places, and a field that is left out has its default. What a scalar stands for is told by its
text.
-/

namespace Compliance

namespace Yaml

namespace Tree

variable (tree : Tree)

def IsText (node : Node) (text : String) : Prop :=
  ∃ style tag anchor, tree.resolve node = .scalar text style tag anchor

/-- Nothing is written, not even quotation marks. -/
def IsNothing (node : Node) : Prop :=
  ∃ tag anchor, tree.resolve node = .scalar "" .plain tag anchor

def IsTexts (node : Node) (texts : List String) : Prop :=
  (∃ items tag anchor, tree.resolve node = .sequence items tag anchor ∧
    List.Forall₂ tree.IsText items texts) ∨ tree.IsNothing node ∧ texts = []

/-- A plain scalar, or a literal block with the tag. -/
def IsTagged (core : String) (node : Node) (text : String) : Prop :=
  ∃ style tag anchor, tree.resolve node = .scalar text style tag anchor ∧
    (style = .plain ∨ style = .literal ∧ tag = some core.toList)

def IsBool (node : Node) (value : Bool) : Prop :=
  ∃ text, tree.IsTagged "tag:yaml.org,2002:bool" node text ∧
    (text, value) ∈ [("true", true), ("True", true), ("TRUE", true),
      ("false", false), ("False", false), ("FALSE", false)]

def IsCount (node : Node) (value : Nat) : Prop :=
  ∃ text, tree.IsTagged "tag:yaml.org,2002:int" node text ∧ Plain.Count text.toList value

def severityNames : List (String × Severity) :=
  [("INFO", .info), ("info", .info), ("WARNING", .warning), ("warning", .warning), ("HIGH", .high),
    ("high", .high), ("CRITICAL", .critical), ("critical", .critical)]

/-- The name of a severity is the text of a scalar or, where nothing else is written, its tag. -/
inductive IsSeverity (node : Node) (severity : Severity) : Prop
  | text {text : String} {style : ScalarStyle} {tag : Option (List Char)} {anchor : Option Nat} :
      tree.resolve node = .scalar text style tag anchor → (∀ name, tag ≠ some ('!' :: name)) →
        (text, severity) ∈ severityNames → IsSeverity node severity
  | tag {text : String} {style : ScalarStyle} {name : List Char} {anchor : Option Nat} :
      tree.resolve node = .scalar text style (some ('!' :: name)) anchor →
        (text = "" ∨ style = .plain ∧ text ∈ ["null", "Null", "NULL", "~"]) →
          (String.ofList name, severity) ∈ severityNames → IsSeverity node severity

/-- All keys are texts, and none of the names is a key twice. -/
structure WellKeyed (names : List String) (entries : List (Node × Node)) : Prop where
  texts : ∀ entry ∈ entries, ∃ key, tree.IsText entry.1 key
  once : entries.Pairwise fun entry other =>
    ∀ name ∈ names, tree.IsText entry.1 name → ¬ tree.IsText other.1 name

/-- A mapping, a sequence of no more values than there are fields, or nothing. -/
inductive IsRecord (names : List String) (record : Node) : Prop
  | mapping {entries : List (Node × Node)} {tag : Option (List Char)} {anchor : Option Nat} :
      tree.resolve record = .mapping entries tag anchor → tree.WellKeyed names entries →
        IsRecord names record
  | sequence {items : List Node} {tag : Option (List Char)} {anchor : Option Nat} :
      tree.resolve record = .sequence items tag anchor → items.length ≤ names.length →
        IsRecord names record
  | nothing : tree.IsNothing record → IsRecord names record

/-- The record has this value for the field: in a mapping the one under its name, in a sequence the
one at its place. -/
inductive Gives (names : List String) (record : Node) (name : String) (value : Node) : Prop
  | named {entries : List (Node × Node)} {tag : Option (List Char)} {anchor : Option Nat}
      {key : Node} : tree.resolve record = .mapping entries tag anchor → (key, value) ∈ entries →
        tree.IsText key name → Gives names record name value
  | placed {items : List Node} {tag : Option (List Char)} {anchor : Option Nat} :
      tree.resolve record = .sequence items tag anchor → (name, value) ∈ names.zip items →
        Gives names record name value

/-- A field is what its value in the record stands for, or the default if the record has none. -/
structure Field {α : Type} (names : List String) (record : Node) (name : String)
    (StandsFor : Node → α → Prop) (default field : α) : Prop where
  given : ∀ value, tree.Gives names record name value → StandsFor value field
  left : (∀ value, ¬ tree.Gives names record name value) → field = default

section Scalars

variable {tree} {node : Node}

theorem text_eq_ok_iff (text : String) : tree.text node = .ok text ↔ tree.IsText node text := by
  rw [Tree.text, IsText]
  cases tree.resolve node <;> simp

theorem texts_eq_ok_iff (texts : List String) :
    tree.texts node = .ok texts ↔ tree.IsTexts node texts := by
  rw [Tree.texts, IsTexts, IsNothing]
  cases tree.resolve node with
  | sequence items tag anchor => simp [Except.mapM_eq_ok_iff, text_eq_ok_iff]
  | scalar spelled style tag anchor =>
      dsimp only
      constructor
      · intro read
        split at read
        · rename_i fits
          obtain ⟨empty, plain⟩ : spelled = "" ∧ style = .plain := by simpa using fits
          exact .inr ⟨⟨tag, anchor, by rw [empty, plain]⟩, (Except.ok.inj read).symm⟩
        · cases read
      · rintro (⟨_, _, _, impossible, _⟩ | ⟨⟨_, _, same⟩, rfl⟩)
        · cases impossible
        · cases same
          rfl
  | _ => simp

theorem typed_eq_ok_iff (core : CoreTag) (text : String) :
    tree.typed core node = .ok text ↔ tree.IsTagged (String.ofList core.name) node text := by
  rw [typed, IsTagged, String.toList_ofList]
  cases tree.resolve node with
  | scalar spelled style tag anchor =>
      dsimp only
      split
      · rename_i fits
        simp_all
      · rename_i unfit
        simp_all
  | _ => simp

theorem bool_eq_ok_iff (value : Bool) : tree.bool node = .ok value ↔ tree.IsBool node value := by
  have spelled (text : String) : Plain.bool? text = some value ↔
      (text, value) ∈ [("true", true), ("True", true), ("TRUE", true),
        ("false", false), ("False", false), ("FALSE", false)] :=
    Keyed.lookup_eq_some_iff_of_nodup (by decide) text value
  rw [bool, Except.bind_eq_ok_iff, IsBool]
  simp only [typed_eq_ok_iff, ← spelled]
  refine exists_congr fun text => and_congr Iff.rfl ?_
  cases Plain.bool? text with
  | none => simp
  | some known =>
      exact ⟨fun read => congrArg some (Except.ok.inj read),
        fun same => congrArg Except.ok (Option.some.inj same)⟩

theorem count_eq_ok_iff (value : Nat) : tree.count node = .ok value ↔ tree.IsCount node value := by
  rw [count, Except.bind_eq_ok_iff, IsCount]
  simp only [typed_eq_ok_iff, Plain.count_iff]
  refine exists_congr fun text => and_congr Iff.rfl ?_
  have signed : text.startsWith "-" = true ↔ text.toList.head? = some '-' := by
    rw [String.startsWith_string_iff]
    cases text.toList <;> simp [eq_comm]
  split
  · rename_i known found
    rw [found, ne_eq, ← signed]
    split
    · rename_i fits
      simp only [Bool.and_eq_true, decide_eq_true_eq, Bool.not_eq_true'] at fits
      constructor
      · intro read
        rw [← Except.ok.inj read]
        exact ⟨fits.1, rfl, Bool.eq_false_iff.mp fits.2⟩
      · rintro ⟨_, same, _⟩
        rw [Int.ofNat.inj (Option.some.inj same)]
        rfl
    · rename_i unfit
      refine iff_of_false nofun ?_
      rintro ⟨fits, same, unsigned⟩
      rw [Int.ofNat.inj (Option.some.inj same)] at unfit
      simp_all
  · rename_i other
    refine iff_of_false nofun ?_
    rintro ⟨_, found, _⟩
    exact other _ found

theorem lookup_spellings_eq_ok_iff (text : String) (severity : Severity) :
    (Severity.spellings.lookup text).elim (.error .wrongValue) Except.ok =
      (.ok severity : Except Fault Severity) ↔ (text, severity) ∈ severityNames := by
  have same : Severity.spellings = severityNames := by decide +kernel
  rw [same, ← Keyed.lookup_eq_some_iff_of_nodup (by decide)]
  cases severityNames.lookup text with
  | none => simp
  | some known => simp

theorem mem_severityNames_tag_iff (name : List Char) (severity : Severity) :
    (if name.isEmpty then "!" else String.ofList name, severity) ∈ severityNames ↔
      (String.ofList name, severity) ∈ severityNames := by
  have nameless : ∀ text ∈ ["", "!"], (text, severity) ∉ severityNames := by
    cases severity <;> decide
  cases name with
  | nil => exact iff_of_false (nameless _ (by simp)) (nameless _ (by simp))
  | cons c rest => simp

theorem severity_eq_ok_iff (severity : Severity) :
    tree.severity node = .ok severity ↔ tree.IsSeverity node severity := by
  have empty (text : String) (style : ScalarStyle) :
      (text.isEmpty || style = .plain && Plain.isNull text) = true ↔
        text = "" ∨ style = .plain ∧ text ∈ ["null", "Null", "NULL", "~"] := by
    simp [Plain.isNull, Plain.nullSpellings]
  rw [Tree.severity]
  dsimp only
  constructor
  · intro read
    split at read
    · rename_i found
      split at read
      · rename_i bare
        exact .tag found ((empty ..).mp bare) ((mem_severityNames_tag_iff ..).mp
          ((lookup_spellings_eq_ok_iff ..).mp read))
      · cases read
    · rename_i own found
      exact .text found own ((lookup_spellings_eq_ok_iff ..).mp read)
    · cases read
  · intro stands
    cases stands with
    | text found own named =>
        rw [found]
        split
        · rename_i same
          cases same
          exact absurd rfl (own _)
        · rename_i same
          cases same
          exact (lookup_spellings_eq_ok_iff ..).mpr named
        · rename_i other
          exact (other _ _ _ _ rfl).elim
    | tag found bare named =>
        rw [found]
        have tagged := (mem_severityNames_tag_iff _ severity).mpr named
        exact (if_pos ((empty ..).mpr bare)).trans ((lookup_spellings_eq_ok_iff ..).mpr tagged)

end Scalars

section Records

variable {tree} {names : List String}

theorem IsText.unique {node : Node} {text other : String} (first : tree.IsText node text)
    (second : tree.IsText node other) : text = other :=
  Except.ok.inj (((text_eq_ok_iff _).mpr first).symm.trans ((text_eq_ok_iff _).mpr second))

theorem WellKeyed.cons {entries : List (Node × Node)} (keyed : tree.WellKeyed names entries)
    {key value : Node} {text : String} (isText : tree.IsText key text)
    (fresh : ∀ entry ∈ entries, ∀ name ∈ names,
      tree.IsText key name → ¬ tree.IsText entry.1 name) :
    tree.WellKeyed names ((key, value) :: entries) where
  texts := List.forall_mem_cons.mpr ⟨⟨text, isText⟩, keyed.texts⟩
  once := List.pairwise_cons.mpr ⟨fresh, keyed.once⟩

/-- The fields found in the entries of a mapping are those under the names. -/
structure Collects (tree : Tree) (names : List String) (entries : List (Node × Node))
    (found : List (String × Node)) : Prop where
  keyed : tree.WellKeyed names entries
  lookup : ∀ name ∈ names, ∀ value, found.lookup name = some value ↔
    ∃ key, (key, value) ∈ entries ∧ tree.IsText key name

theorem Collects.pass {entries : List (Node × Node)} {found : List (String × Node)}
    (collects : Collects tree names entries found) {key : Node} {text : String}
    (isText : tree.IsText key text) (unknown : text ∉ names) (value : Node) :
    Collects tree names ((key, value) :: entries) found := by
  have other : ∀ name ∈ names, ¬ tree.IsText key name := fun name known same =>
    unknown (isText.unique same ▸ known)
  refine
    { keyed := collects.keyed.cons isText fun _ _ name known same => absurd same (other name known)
      lookup := fun name known given => ?_ }
  rw [collects.lookup name known]
  constructor
  · rintro ⟨key, listed, same⟩
    exact ⟨key, List.mem_cons_of_mem _ listed, same⟩
  · rintro ⟨key, listed, same⟩
    rcases List.mem_cons.mp listed with here | later
    · cases here
      exact absurd same (other name known)
    · exact ⟨key, later, same⟩

theorem Collects.not_isText {entries : List (Node × Node)} {found : List (String × Node)}
    (collects : Collects tree names entries found) {text : String} (known : text ∈ names)
    (fresh : found.lookup text = none) : ∀ entry ∈ entries, ¬ tree.IsText entry.1 text := by
  intro entry listed same
  have present := (collects.lookup text known entry.2).mpr ⟨entry.1, listed, same⟩
  rw [fresh] at present
  cases present

theorem Collects.take {entries : List (Node × Node)} {found : List (String × Node)}
    (collects : Collects tree names entries found) {key : Node} {text : String}
    (isText : tree.IsText key text) (known : text ∈ names) (fresh : found.lookup text = none)
    (value : Node) : Collects tree names ((key, value) :: entries) ((text, value) :: found) := by
  have absent := collects.not_isText known fresh
  refine
    { keyed := collects.keyed.cons isText fun other listed name _ same =>
        isText.unique same ▸ absent other listed
      lookup := fun name listed given => ?_ }
  rw [List.lookup_cons]
  by_cases same : name = text
  · subst same
    rw [beq_self_eq_true]
    constructor
    · intro here
      exact ⟨key, by simp [Option.some.inj here], isText⟩
    · rintro ⟨other, member, again⟩
      rcases List.mem_cons.mp member with here | later
      · cases here
        rfl
      · exact absurd again (absent _ later)
  · rw [beq_false_of_ne same]
    dsimp only
    rw [collects.lookup name listed]
    constructor
    · rintro ⟨other, later, again⟩
      exact ⟨other, List.mem_cons_of_mem _ later, again⟩
    · rintro ⟨other, member, again⟩
      rcases List.mem_cons.mp member with here | later
      · cases here
        exact absurd (again.unique isText) same
      · exact ⟨other, later, again⟩

theorem collects_knownEntries {entries : List (Node × Node)} {found : List (String × Node)}
    (collected : tree.knownEntries names entries = .ok found) :
    Collects tree names entries found := by
  induction entries generalizing found with
  | nil =>
      cases collected
      exact ⟨⟨by simp, List.Pairwise.nil⟩, by simp⟩
  | cons entry rest ih =>
      obtain ⟨key, value⟩ := entry
      rw [knownEntries] at collected
      split at collected
      · rename_i text style tag anchor spelled
        have isText : tree.IsText key text := ⟨style, tag, anchor, spelled⟩
        obtain ⟨others, collected, done⟩ := (Except.bind_eq_ok_iff ..).mp collected
        split at done
        · rename_i unknown
          rw [← Except.ok.inj done]
          exact (ih collected).pass isText (by simpa using unknown) value
        · rename_i known
          split at done
          · cases done
          · rename_i fresh
            rw [← Except.ok.inj done]
            exact (ih collected).take isText (by simpa using known)
              (Option.not_isSome_iff_eq_none.mp fresh) value
      · cases collected

theorem exists_knownEntries {entries : List (Node × Node)}
    (keyed : tree.WellKeyed names entries) :
    ∃ found, tree.knownEntries names entries = .ok found := by
  induction entries with
  | nil => exact ⟨[], rfl⟩
  | cons entry rest ih =>
      obtain ⟨⟨text, isText⟩, texts⟩ := List.forall_mem_cons.mp keyed.texts
      obtain ⟨first, once⟩ := List.pairwise_cons.mp keyed.once
      obtain ⟨others, collected⟩ := ih ⟨texts, once⟩
      have collects := collects_knownEntries collected
      obtain ⟨style, tag, anchor, spelled⟩ := isText
      simp only [knownEntries, spelled, Except.bind_eq_ok_iff]
      by_cases known : text ∈ names
      · have fresh : others.lookup text = none := by
          refine Option.eq_none_iff_forall_ne_some.mpr fun value found => ?_
          obtain ⟨key, listed, same⟩ := (collects.lookup text known value).mp found
          exact first _ listed text known ⟨style, tag, anchor, spelled⟩ same
        refine ⟨(text, entry.2) :: others, others, collected, ?_⟩
        rw [if_neg (by simpa using known), fresh]
        rfl
      · refine ⟨others, others, collected, ?_⟩
        rw [if_pos (by simpa using known)]
        rfl

theorem lookup_fields (distinct : names.Nodup) {record : Node} {found : List (String × Node)}
    (read : tree.fields names record = .ok found) :
    tree.IsRecord names record ∧ ∀ name ∈ names, ∀ value,
      found.lookup name = some value ↔ tree.Gives names record name value := by
  rw [fields] at read
  split at read
  · rename_i entries tag anchor resolved
    have collects := collects_knownEntries read
    refine ⟨.mapping resolved collects.keyed, fun name known value => ?_⟩
    rw [collects.lookup name known]
    constructor
    · rintro ⟨key, listed, isText⟩
      exact .named resolved listed isText
    · intro gives
      cases gives with
      | named same listed isText =>
          cases resolved.symm.trans same
          exact ⟨_, listed, isText⟩
      | placed same => cases resolved.symm.trans same
  · rename_i items tag anchor resolved
    split at read
    · rename_i short
      refine ⟨.sequence resolved short, fun name known value => ?_⟩
      have keys : ((names.zip items).map Prod.fst).Nodup := by
        have taken : (names.zip items).map Prod.fst = names.take items.length :=
          List.ext_getElem (by simp [min_comm]) (by simp)
        rw [taken]
        exact distinct.sublist (List.take_sublist ..)
      rw [← Except.ok.inj read, Keyed.lookup_eq_some_iff_of_nodup keys]
      constructor
      · exact fun listed => .placed resolved listed
      · intro gives
        cases gives with
        | named same => cases resolved.symm.trans same
        | placed same listed =>
            cases resolved.symm.trans same
            exact listed
    · cases read
  · rename_i text style tag anchor resolved
    split at read
    · rename_i fits
      obtain ⟨rfl, rfl⟩ : text = "" ∧ style = .plain := by simpa using fits
      refine ⟨.nothing ⟨tag, anchor, resolved⟩, fun name known value => ?_⟩
      rw [← Except.ok.inj read]
      refine iff_of_false nofun fun gives => ?_
      cases gives with
      | named same => cases resolved.symm.trans same
      | placed same => cases resolved.symm.trans same
    · cases read
  · cases read

theorem exists_fields {record : Node} (readable : tree.IsRecord names record) :
    ∃ found, tree.fields names record = .ok found := by
  rw [fields]
  cases readable with
  | mapping resolved keyed =>
      rw [resolved]
      exact exists_knownEntries keyed
  | sequence resolved short =>
      rw [resolved]
      exact ⟨_, if_pos short⟩
  | nothing unwritten =>
      obtain ⟨tag, anchor, resolved⟩ := unwritten
      rw [resolved]
      exact ⟨[], rfl⟩

theorem field_eq_ok_iff {α : Type} {record : Node} {found : List (String × Node)} {name : String}
    (stands : ∀ value, found.lookup name = some value ↔ tree.Gives names record name value)
    {read : Node → Except Fault α} {StandsFor : Node → α → Prop}
    (reads : ∀ node value, read node = .ok value ↔ StandsFor node value) (default value : α) :
    field read default found name = .ok value ↔
      tree.Field names record name StandsFor default value := by
  rw [field]
  cases present : found.lookup name with
  | none =>
      have left : ∀ value, ¬ tree.Gives names record name value := by
        intro value gives
        rw [(stands value).mpr gives] at present
        cases present
      constructor
      · intro read
        exact ⟨fun value gives => absurd gives (left value), fun _ => (Except.ok.inj read).symm⟩
      · intro isField
        rw [isField.left left]
  | some node =>
      have gives := (stands node).mp present
      dsimp only
      rw [reads]
      constructor
      · intro standsFor
        refine ⟨fun other again => ?_, fun left => absurd gives (left node)⟩
        rw [(stands other).mpr again] at present
        rwa [Option.some.inj present]
      · exact fun isField => isField.given node gives

end Records

end Tree

end Yaml

namespace EngineConfig

def fieldNames : List String := ["context_radius", "critical_severity", "record_history"]

/-- The settings of an engine as a node of a settings file has them. -/
structure IsIn (tree : Yaml.Tree) (node : Yaml.Node) (config : EngineConfig) : Prop where
  record : tree.IsRecord fieldNames node
  contextRadius :
    tree.Field fieldNames node "context_radius" tree.IsCount 1 config.contextRadius
  criticalSeverity :
    tree.Field fieldNames node "critical_severity" tree.IsSeverity .critical config.criticalSeverity
  recordHistory :
    tree.Field fieldNames node "record_history" tree.IsBool true config.recordHistory

theorem ofNode_eq_ok_iff {tree : Yaml.Tree} {node : Yaml.Node} (config : EngineConfig) :
    ofNode tree node = .ok config ↔ config.IsIn tree node := by
  have distinct : fieldNames.Nodup := by decide
  simp only [ofNode, Except.bind_eq_ok_iff]
  constructor
  · rintro ⟨found, read, radius, first, severity, second, history, third, made⟩
    obtain ⟨record, stands⟩ := Yaml.Tree.lookup_fields distinct read
    rw [← Except.ok.inj made]
    exact
      { record
        contextRadius := (Yaml.Tree.field_eq_ok_iff (stands _ (by decide))
          (fun _ => Yaml.Tree.count_eq_ok_iff) 1 _).mp first
        criticalSeverity := (Yaml.Tree.field_eq_ok_iff (stands _ (by decide))
          (fun _ => Yaml.Tree.severity_eq_ok_iff) .critical _).mp second
        recordHistory := (Yaml.Tree.field_eq_ok_iff (stands _ (by decide))
          (fun _ => Yaml.Tree.bool_eq_ok_iff) true _).mp third }
  · intro isIn
    obtain ⟨found, read⟩ := Yaml.Tree.exists_fields isIn.record
    obtain ⟨_, stands⟩ := Yaml.Tree.lookup_fields distinct read
    exact ⟨found, read,
      _, (Yaml.Tree.field_eq_ok_iff (stands _ (by decide))
        (fun _ => Yaml.Tree.count_eq_ok_iff) 1 _).mpr isIn.contextRadius,
      _, (Yaml.Tree.field_eq_ok_iff (stands _ (by decide))
        (fun _ => Yaml.Tree.severity_eq_ok_iff) .critical _).mpr isIn.criticalSeverity,
      _, (Yaml.Tree.field_eq_ok_iff (stands _ (by decide))
        (fun _ => Yaml.Tree.bool_eq_ok_iff) true _).mpr isIn.recordHistory, rfl⟩

end EngineConfig

namespace ProjectConfig

/-- What holds where a settings file says nothing. -/
def usual : ProjectConfig where
  name := "forensic"
  rulePaths := ["rules"]
  engine := { contextRadius := 1, criticalSeverity := .critical, recordHistory := true }

def fieldNames : List String := ["name", "rule-paths", "engine"]

structure IsIn (tree : Yaml.Tree) (node : Yaml.Node) (config : ProjectConfig) : Prop where
  record : tree.IsRecord fieldNames node
  name : tree.Field fieldNames node "name" tree.IsText usual.name config.name
  rulePaths : tree.Field fieldNames node "rule-paths" tree.IsTexts usual.rulePaths config.rulePaths
  engine : tree.Field fieldNames node "engine" (fun value engine => engine.IsIn tree value)
    usual.engine config.engine

/-- The settings that the text of a settings file says. -/
inductive IsSaid (text : String) : ProjectConfig → Prop
  | nothing : Yaml.Tree.ofText? text = .ok none → IsSaid text usual
  | record {tree : Yaml.Tree} {config : ProjectConfig} :
      Yaml.Tree.ofText? text = .ok (some tree) → config.IsIn tree tree.root → IsSaid text config

theorem standard_eq_usual : standard = usual := rfl

theorem ofNode_eq_ok_iff {tree : Yaml.Tree} {node : Yaml.Node} (config : ProjectConfig) :
    ofNode tree node = .ok config ↔ config.IsIn tree node := by
  have distinct : fieldNames.Nodup := by decide
  simp only [ofNode, Except.bind_eq_ok_iff]
  constructor
  · rintro ⟨found, read, name, first, paths, second, engine, third, made⟩
    obtain ⟨record, stands⟩ := Yaml.Tree.lookup_fields distinct read
    rw [← Except.ok.inj made]
    exact
      { record
        name := (Yaml.Tree.field_eq_ok_iff (stands _ (by decide))
          (fun _ => Yaml.Tree.text_eq_ok_iff) _ _).mp first
        rulePaths := (Yaml.Tree.field_eq_ok_iff (stands _ (by decide))
          (fun _ => Yaml.Tree.texts_eq_ok_iff) _ _).mp second
        engine := (Yaml.Tree.field_eq_ok_iff (stands _ (by decide))
          (fun _ => EngineConfig.ofNode_eq_ok_iff) _ _).mp third }
  · intro isIn
    obtain ⟨found, read⟩ := Yaml.Tree.exists_fields isIn.record
    obtain ⟨_, stands⟩ := Yaml.Tree.lookup_fields distinct read
    exact ⟨found, read,
      _, (Yaml.Tree.field_eq_ok_iff (stands _ (by decide))
        (fun _ => Yaml.Tree.text_eq_ok_iff) _ _).mpr isIn.name,
      _, (Yaml.Tree.field_eq_ok_iff (stands _ (by decide))
        (fun _ => Yaml.Tree.texts_eq_ok_iff) _ _).mpr isIn.rulePaths,
      _, (Yaml.Tree.field_eq_ok_iff (stands _ (by decide))
        (fun _ => EngineConfig.ofNode_eq_ok_iff) _ _).mpr isIn.engine, rfl⟩

theorem ofText_eq_ok_iff (text : String) (config : ProjectConfig) :
    ofText text = .ok config ↔ IsSaid text config := by
  rw [ofText, Except.bind_eq_ok_iff]
  constructor
  · rintro ⟨document, parsed, read⟩
    cases document with
    | none =>
        rw [← Except.ok.inj read, standard_eq_usual]
        exact .nothing parsed
    | some tree => exact .record parsed ((ofNode_eq_ok_iff config).mp read)
  · intro said
    cases said with
    | nothing parsed => exact ⟨none, parsed, rfl⟩
    | record parsed isIn => exact ⟨some _, parsed, (ofNode_eq_ok_iff config).mpr isIn⟩

theorem IsSaid.unique {text : String} {config other : ProjectConfig} (first : IsSaid text config)
    (second : IsSaid text other) : config = other :=
  Except.ok.inj (((ofText_eq_ok_iff text config).mpr first).symm.trans
    ((ofText_eq_ok_iff text other).mpr second))

end ProjectConfig

end Compliance
