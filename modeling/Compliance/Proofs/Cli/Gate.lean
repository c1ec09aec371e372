import Compliance.Proofs.Aggregate.Partition
import Compliance.Proofs.Cli.Agreement
import Compliance.Proofs.Engine.Agreement

/-!
The exit status of a check. What can be loaded decides on it, and which of the registered rules that
are selected the document satisfies. The format has no part in it, nor have rejected definitions. An
id of no rule has a part in it only if no id of a rule is given: then it stands in the place of all
rules, and there is nothing left that could fail.
-/

namespace Compliance

open scoped List

/-- Nothing but a registered rule that is not satisfied speaks against a document. -/
theorem Engine.overallCompliant_evaluateMany_iff (engine : Engine) (ids : List String)
    (text : String) (clock : Clock) :
    (engine.evaluateMany ids text clock).1.overallCompliant = true ↔
      ∀ id ∈ ids, ∀ rule, engine.registry.get? id = some rule →
        rule.condition.Holds (Document.ofText text).Mentions := by
  have overall := (Aggregate.partitions_ofReports engine.config.criticalSeverity
    (engine.reports (Document.ofText text) clock.rule 0 ids).1 clock.whole).overall
  rw [evaluateMany]
  dsimp only
  rw [summarize, overall, reports_fst]
  constructor
  · intro compliant id asked rule known
    rw [← List.zipIdx_map_fst 0 ids] at asked
    obtain ⟨⟨_, position⟩, placed, rfl⟩ := List.mem_map.mp asked
    have made := reportOn_of_some known (Document.ofText text) (clock.rule position)
    exact (rule.compliant_evaluate_iff ..).mp (compliant _ (List.mem_map.mpr ⟨_, placed, made⟩))
  · intro satisfied evaluation reported
    obtain ⟨⟨id, position⟩, placed, made⟩ := List.mem_map.mp reported
    dsimp only at made
    cases known : engine.registry.get? id with
    | none =>
        rw [reportOn_of_none known] at made
        cases made
    | some rule =>
        rw [reportOn_of_some known] at made
        cases made
        have asked := List.fst_mem_of_mem_zipIdx placed
        exact (rule.compliant_evaluate_iff ..).mpr (satisfied id asked rule known)

namespace Cli

/-- What a check needs: the text of the document, the settings of the project, and the definitions
in all its rule files. -/
structure Loads (world : World) (document project text : String) (config : ProjectConfig)
    (definitions : List Json) : Prop where
  readable : world.files.readText document = .ok text
  configured :
    ProjectConfig.loadOrStandard world.files world.environment project = .ok config
  found : ∃ paths parts,
    RuleSource.ruleFiles world.files (RuleSource.ofConfig project config).paths = .ok paths ∧
      List.Forall₂ (fun path part => RuleSource.parse world.files path = .ok part) paths parts ∧
        parts.flatten = definitions

/-- A rule is selected by its id, or because no id at all is given. -/
def CheckRequest.Selects (request : CheckRequest) (rule : Rule) : Prop :=
  request.rules = [] ∨ rule.id ∈ request.rules

def engineOf (config : ProjectConfig) (definitions : List Json) : Engine where
  config := config.engine
  registry := (Registry.empty.registerValues definitions).registry

def resultOf (world : World) (request : CheckRequest) (text : String) (config : ProjectConfig)
    (definitions : List Json) : Aggregate :=
  ((engineOf config definitions).evaluateMany (selectedRules request (engineOf config definitions))
    text world.clock).1

/-- What the exit status of a check says, and what it prints for a program to read. -/
structure Gate (world : World) (request : CheckRequest) : Prop where
  passes : (execute world (.check request)).status = 0 ↔ ∃ text config definitions rules,
    Loads world request.document request.project text config definitions ∧
      Remaining (acceptedRules (definitions.map Rule.ofJson)) rules ∧
        (request.strict = true → ∀ rule ∈ rules, request.Selects rule →
          rule.condition.Holds (Document.ofText text).Mentions)
  fails : (execute world (.check request)).status ≠ 0 →
    (execute world (.check request)).status = 1
  formats : ∀ format, (execute world (.check { request with format })).status =
    (execute world (.check request)).status
  rejected : ∀ (other : World) document project text config otherConfig definitions others,
    (∀ tasks, other.schedule tasks ~ tasks) →
      Loads world request.document request.project text config definitions →
        Loads other document project text otherConfig others →
          acceptedRules (others.map Rule.ofJson) = acceptedRules (definitions.map Rule.ofJson) →
            (execute other (.check { request with document, project })).status =
              (execute world (.check request)).status
  stray : ∀ text config definitions rules,
    Loads world request.document request.project text config definitions →
      Remaining (acceptedRules (definitions.map Rule.ofJson)) rules →
        request.rules ≠ [] → (∀ rule ∈ rules, rule.id ∉ request.rules) →
          (execute world (.check request)).status = 0
  unknown : ∀ others, (others = [] ↔ request.rules = []) →
    (∀ text config definitions rules,
      Loads world request.document request.project text config definitions →
        Remaining (acceptedRules (definitions.map Rule.ofJson)) rules →
          ∀ rule ∈ rules, (rule.id ∈ others ↔ rule.id ∈ request.rules)) →
      (execute world (.check { request with rules := others })).status =
        (execute world (.check request)).status
  printed : ∀ text config definitions,
    Loads world request.document request.project text config definitions →
      request.format = .json → (execute world (.check request)).stdout =
        line (resultOf world request text config definitions).toJson.pretty

section Loads

variable {world : World} {document project text : String} {config : ProjectConfig}
  {definitions : List Json}

theorem Loads.load_eq (loads : Loads world document project text config definitions) :
    load world project = .ok ⟨config, engineOf config definitions,
      (Registry.empty.registerValues definitions).summary⟩ := by
  have found := (RuleSource.load_eq_ok_iff ..).mpr loads.found
  have built := (RuleSource.engine_eq_ok_iff world.files (RuleSource.ofConfig project config)
    config.engine _ _).mpr ⟨definitions, found, rfl, rfl⟩
  rw [load, loads.configured]
  dsimp only
  rw [built]
  rfl

/-- What is loaded depends on nothing but where it is looked for. -/
theorem Loads.unique {otherText : String} {otherConfig : ProjectConfig} {others : List Json}
    (loads : Loads world document project text config definitions)
    (otherLoads : Loads world document project otherText otherConfig others) :
    otherText = text ∧ otherConfig = config ∧ others = definitions := by
  obtain rfl : otherText = text :=
    Except.ok.inj (otherLoads.readable.symm.trans loads.readable)
  obtain rfl : otherConfig = config :=
    Except.ok.inj (otherLoads.configured.symm.trans loads.configured)
  have found := (RuleSource.load_eq_ok_iff ..).mpr loads.found
  have otherFound := (RuleSource.load_eq_ok_iff ..).mpr otherLoads.found
  exact ⟨rfl, rfl, Except.ok.inj (otherFound.symm.trans found)⟩

theorem exists_loads_of_load {loaded : Loaded}
    (readable : world.files.readText document = .ok text)
    (done : load world project = .ok loaded) :
    ∃ definitions, Loads world document project text loaded.config definitions := by
  obtain ⟨configured, definitions, found, _⟩ := load_eq_ok done
  exact ⟨definitions, readable, configured, (RuleSource.load_eq_ok_iff ..).mp found⟩

end Loads

section Status

variable {world : World} {request : CheckRequest} {text : String} {config : ProjectConfig}
  {definitions : List Json}

theorem status_of_not_loads (missing : ∀ text config definitions,
    ¬ Loads world request.document request.project text config definitions) :
    (execute world (.check request)).status = 1 := by
  rw [execute, check]
  cases readable : world.files.readText request.document with
  | error fault => rfl
  | ok text =>
      cases done : load world request.project with
      | error failure => rfl
      | ok loaded =>
          obtain ⟨definitions, loads⟩ := exists_loads_of_load readable done
          exact absurd loads (missing text loaded.config definitions)

section Loaded

variable (loads : Loads world request.document request.project text config definitions)
  (complete : ∀ tasks, world.schedule tasks ~ tasks)
include loads complete

theorem execute_check : execute world (.check request) =
    { status :=
        if request.strict && !(resultOf world request text config definitions).overallCompliant
        then 1 else 0
      stdout := checkStdout request config (resultOf world request text config definitions)
      stderr := checkStderr request (resultOf world request text config definitions)
      files := world.files } := by
  rw [execute, check, loads.readable, loads.load_eq]
  dsimp only
  rw [Engine.evaluateConcurrently_fst _ _ complete]
  rfl

theorem stdout_json (format : request.format = .json) :
    (execute world (.check request)).stdout =
      line (resultOf world request text config definitions).toJson.pretty := by
  rw [execute_check loads complete]
  dsimp only
  rw [checkStdout, format]

end Loaded

theorem overallCompliant_resultOf_iff {rules : List Rule}
    (remaining : Remaining (acceptedRules (definitions.map Rule.ofJson)) rules) :
    (resultOf world request text config definitions).overallCompliant = true ↔
      ∀ rule ∈ rules, request.Selects rule →
        rule.condition.Holds (Document.ofText text).Mentions := by
  have known_iff := Registry.get?_registerValues_iff remaining
  rw [resultOf, Engine.overallCompliant_evaluateMany_iff]
  by_cases all : request.rules = []
  · have chosen : selectedRules request (engineOf config definitions) =
        (engineOf config definitions).registry.ids := by
      rw [selectedRules, all]
      rfl
    rw [chosen]
    constructor
    · intro satisfied rule listed _
      have known := (known_iff rule.id rule).mpr ⟨listed, rfl⟩
      exact satisfied rule.id ((Keyed.mem_keys_iff ..).mpr ⟨rule, known⟩) rule known
    · intro satisfied id _ rule known
      exact satisfied rule ((known_iff id rule).mp known).1 (.inl all)
  · have chosen : selectedRules request (engineOf config definitions) = request.rules := by
      rw [selectedRules, if_neg (by simpa using all)]
    rw [chosen]
    constructor
    · intro satisfied rule listed selected
      have named : rule.id ∈ request.rules := selected.resolve_left all
      exact satisfied rule.id named rule ((known_iff rule.id rule).mpr ⟨listed, rfl⟩)
    · intro satisfied id named rule known
      obtain ⟨listed, rfl⟩ := (known_iff id rule).mp known
      exact satisfied rule listed (.inr named)

theorem status_eq_zero_iff
    (loads : Loads world request.document request.project text config definitions)
    (complete : ∀ tasks, world.schedule tasks ~ tasks) {rules : List Rule}
    (remaining : Remaining (acceptedRules (definitions.map Rule.ofJson)) rules) :
    (execute world (.check request)).status = 0 ↔
      (request.strict = true → ∀ rule ∈ rules, request.Selects rule →
        rule.condition.Holds (Document.ofText text).Mentions) := by
  have overall : (resultOf world request text config definitions).overallCompliant = true ↔ _ :=
    overallCompliant_resultOf_iff remaining
  rw [execute_check loads complete, ← overall]
  cases request.strict <;> simp

theorem status_of_ne_zero (complete : ∀ tasks, world.schedule tasks ~ tasks)
    (failed : (execute world (.check request)).status ≠ 0) :
    (execute world (.check request)).status = 1 := by
  by_cases loadable : ∃ text config definitions,
      Loads world request.document request.project text config definitions
  · obtain ⟨text, config, definitions, loads⟩ := loadable
    rw [execute_check loads complete] at failed ⊢
    dsimp only at failed ⊢
    rw [ite_ne_right_iff] at failed
    exact if_pos failed.1
  · exact status_of_not_loads (by simpa using loadable)

theorem status_eq_of_zero_iff {other : World} {otherRequest : CheckRequest}
    (complete : ∀ tasks, world.schedule tasks ~ tasks)
    (otherComplete : ∀ tasks, other.schedule tasks ~ tasks)
    (together : (execute other (.check otherRequest)).status = 0 ↔
      (execute world (.check request)).status = 0) :
    (execute other (.check otherRequest)).status = (execute world (.check request)).status := by
  by_cases passed : (execute world (.check request)).status = 0
  · rw [passed, together.mpr passed]
  · rw [status_of_ne_zero complete passed,
      status_of_ne_zero otherComplete (mt together.mp passed)]

theorem status_of_same_rules (complete : ∀ tasks, world.schedule tasks ~ tasks) (format : Format)
    (others : List String)
    (same : ∀ text config definitions rules,
      Loads world request.document request.project text config definitions →
        Remaining (acceptedRules (definitions.map Rule.ofJson)) rules →
          ∀ rule ∈ rules,
            ({ request with rules := others, format }.Selects rule ↔ request.Selects rule)) :
    (execute world (.check { request with rules := others, format })).status =
      (execute world (.check request)).status := by
  by_cases loadable : ∃ text config definitions,
      Loads world request.document request.project text config definitions
  · obtain ⟨text, config, definitions, loads⟩ := loadable
    have remaining := Registry.remaining_toList definitions
    let other : CheckRequest := { request with rules := others, format }
    have otherLoads : Loads world other.document other.project text config definitions := loads
    apply status_eq_of_zero_iff complete complete
    rw [status_eq_zero_iff loads complete remaining]
    refine Iff.trans (status_eq_zero_iff otherLoads complete remaining) ?_
    refine imp_congr_right fun _ => forall₂_congr fun rule listed => ?_
    rw [same text config definitions _ loads remaining rule listed]
  · have missing : ∀ text config definitions,
        ¬ Loads world request.document request.project text config definitions := by
      simpa using loadable
    rw [status_of_not_loads missing]
    exact status_of_not_loads missing

end Status

/-- Whatever is asked for, and in whatever order the rules are evaluated, a check is such a gate. -/
theorem check_gates {world : World} (complete : ∀ tasks, world.schedule tasks ~ tasks)
    (request : CheckRequest) : Gate world request := by
  constructor
  case passes =>
    constructor
    · intro passed
      by_cases loadable : ∃ text config definitions,
          Loads world request.document request.project text config definitions
      · obtain ⟨text, config, definitions, loads⟩ := loadable
        have remaining := Registry.remaining_toList definitions
        exact ⟨text, config, definitions, _, loads, remaining,
          (status_eq_zero_iff loads complete remaining).mp passed⟩
      · have failed : (execute world (.check request)).status = 1 :=
          status_of_not_loads (by simpa using loadable)
        cases passed.symm.trans failed
    · rintro ⟨text, config, definitions, rules, loads, remaining, satisfied⟩
      exact (status_eq_zero_iff loads complete remaining).mpr satisfied
  case fails => exact status_of_ne_zero complete
  case formats =>
    intro format
    exact status_of_same_rules complete format request.rules fun _ _ _ _ _ _ _ _ => Iff.rfl
  case rejected =>
    intro other document project text config otherConfig definitions others otherComplete loads
      otherLoads same
    have remaining := Registry.remaining_toList definitions
    have otherRemaining := remaining
    rw [← same] at otherRemaining
    apply status_eq_of_zero_iff complete otherComplete
    rw [status_eq_zero_iff loads complete remaining]
    exact status_eq_zero_iff otherLoads otherComplete otherRemaining
  case stray =>
    intro text config definitions rules loads remaining given apart
    rw [status_eq_zero_iff loads complete remaining]
    intro _ rule listed selected
    rcases selected with all | named
    · exact absurd all given
    · exact absurd named (apart rule listed)
  case unknown =>
    intro others none same
    apply status_of_same_rules complete request.format others
    intro text config definitions rules loads remaining rule listed
    exact or_congr none (same text config definitions rules loads remaining rule listed)
  case printed =>
    intro text config definitions loads format
    exact stdout_json loads complete format

/-- The project with its rule that comes twice, and beside it a text that does not satisfy it. -/
def warned : World :=
  { amended with
    files := { entries := (["d.txt"], .file "He ran.".toUTF8) :: amended.files.entries } }

theorem locate_document (followLast : Bool) :
    warned.files.locate followLast "d.txt" = .ok (["d.txt"], .file "He ran.".toUTF8) := by
  have names : Path.names "d.txt" = ["d.txt"] := by
    rw [Path.names_eq]
    decide
  have relative : Path.isAbsolute "d.txt" = false := by decide +kernel
  have closed : Path.endsWithSlash "d.txt" = false := by decide +kernel
  rw [warned.files.locate_bare followLast names relative closed]
  rfl

theorem joined_warned :
    ∀ name ∈ "r.json" :: configNames, Path.join "." name = "./" ++ name := by
  decide +kernel

theorem names_warned :
    ∀ name ∈ "r.json" :: configNames, Path.names ("./" ++ name) = [".", name] := by
  simp only [Path.names_eq]
  decide

theorem locate_warned (followLast : Bool) : ∀ name ∈ "r.json" :: configNames,
    warned.files.locate followLast ("./" ++ name) =
      warned.files.locateNames followLast false [".", name] := by
  have relative : ∀ name ∈ "r.json" :: configNames, Path.isAbsolute ("./" ++ name) = false := by
    decide +kernel
  have closed : ∀ name ∈ "r.json" :: configNames, Path.endsWithSlash ("./" ++ name) = false := by
    decide +kernel
  intro name listed
  have names := names_warned name listed
  rw [← names]
  exact warned.files.locate_relative followLast (by simp [names]) (relative name listed)
    (closed name listed)

theorem configured_warned :
    ProjectConfig.loadOrStandard warned.files warned.environment "." = .ok amendedConfig := by
  have absent : ∀ name ∈ configNames,
      (warned.files.locateNames true false [".", name]).isOk = false := by decide
  have unset : ∀ name ∈ configNames, warned.files.exists? (Path.join "." name) = false := by
    intro name listed
    have among := List.mem_cons_of_mem "r.json" listed
    rw [joined_warned name among, FileTree.exists?, locate_warned true name among]
    exact absent name listed
  rw [ProjectConfig.loadOrStandard_of_unset unset]
  exact congrArg Except.ok override_amended

theorem extension_warned : Path.extension? ("./" ++ "r.json") = some "json" := by
  have relative : Path.isAbsolute ("./" ++ "r.json") = false := by decide +kernel
  have components : Path.components ("./" ++ "r.json") = [".", "r.json"] := by
    rw [Path.components, names_warned _ List.mem_cons_self, relative]
    rfl
  rw [Path.extension?, components]
  simp [splitOn_rules]

theorem loads_warned :
    Loads warned "d.txt" "." "He ran." amendedConfig (Json.sortedItems amendedItems) where
  readable := FileTree.readText_of_locate (locate_document true) rfl
  configured := configured_warned
  found := by
    have joined : amendedConfig.rulePaths.map (Path.join ".") = ["./" ++ "r.json"] := by
      rw [amendedConfig, List.map_singleton, joined_warned _ List.mem_cons_self]
    have located (followLast : Bool) : warned.files.locate followLast ("./" ++ "r.json") =
        .ok (["r.json"], .file (Json.array amendedItems).pretty.toUTF8) := by
      rw [locate_warned followLast _ List.mem_cons_self]
      rfl
    rw [← RuleSource.load_eq_ok_iff, RuleSource.ofConfig, joined]
    exact RuleSource.load_pretty located rfl extension_warned numberless_amended (by decide)

theorem mem_iff_of_remaining_amended {rules : List Rule} (remaining :
    Remaining (acceptedRules ((Json.sortedItems amendedItems).map Rule.ofJson)) rules)
    (rule : Rule) : rule ∈ rules ↔ rule = amendedRule := by
  rw [remaining.mem_iff, acceptedRules_amended]
  constructor
  · intro found
    have named : rule.id = "c10" := by
      have listed := List.mem_of_find?_eq_some found
      rw [List.mem_reverse, List.mem_pair] at listed
      rcases listed with rfl | rfl <;> rfl
    rw [named] at found
    have first : some amendedRule = some rule := found
    exact (Option.some.inj first).symm
  · rintro rfl
    rfl

theorem not_holds_amendedRule :
    ¬ amendedRule.condition.Holds (Document.ofText "He ran.").Mentions := by
  rw [← amendedRule.compliant_evaluate_iff (Document.ofText "He ran.") 1 ⟨.epoch, 0⟩]
  decide

/-- The rule is not satisfied, whatever the format, which is of no consequence if not strict. -/
theorem check_gates_warned :
    (∀ tasks, warned.schedule tasks ~ tasks) ∧
      (execute warned (.check
        { document := "d.txt", rules := ["c10"], strict := true })).status = 1 ∧
      (execute warned (.check
        { document := "d.txt", rules := ["c10"], format := .json, strict := true })).status = 1 ∧
      (execute warned (.check { document := "d.txt", rules := ["c10"] })).status = 0 := by
  have complete : ∀ tasks, warned.schedule tasks ~ tasks := fun tasks => tasks.reverse_perm
  have remaining := Registry.remaining_toList (Json.sortedItems amendedItems)
  have strict := check_gates complete { document := "d.txt", rules := ["c10"], strict := true }
  have lenient := check_gates complete { document := "d.txt", rules := ["c10"] }
  have failed : (execute warned (.check
      { document := "d.txt", rules := ["c10"], strict := true })).status = 1 := by
    apply strict.fails
    intro passed
    obtain ⟨text, config, definitions, rules, loads, registered, satisfied⟩ :=
      strict.passes.mp passed
    obtain ⟨rfl, rfl, rfl⟩ := loads_warned.unique loads
    have listed := (mem_iff_of_remaining_amended registered amendedRule).mpr rfl
    exact not_holds_amendedRule (satisfied rfl amendedRule listed (.inr List.mem_cons_self))
  refine ⟨complete, failed, (strict.formats .json).trans failed, lenient.passes.mpr ?_⟩
  exact ⟨_, _, _, _, loads_warned, remaining, nofun⟩

/-- Strictly checked against all rules the text fails, and with an id of no rule added it passes. -/
theorem check_passes_unknown :
    Loads warned "d.txt" "." "He ran." amendedConfig (Json.sortedItems amendedItems) ∧
      (engineOf amendedConfig (Json.sortedItems amendedItems)).registry.get? "ghost" = none ∧
      (execute warned (.check { document := "d.txt", rules := [], strict := true })).status = 1 ∧
      (execute warned (.check
        { document := "d.txt", rules := ["ghost"], strict := true })).status = 0 := by
  have complete : ∀ tasks, warned.schedule tasks ~ tasks := fun tasks => tasks.reverse_perm
  have remaining := Registry.remaining_toList (Json.sortedItems amendedItems)
  have known := mem_iff_of_remaining_amended remaining
  refine ⟨loads_warned, ?_, status_of_ne_zero complete fun passed => ?_, ?_⟩
  · rw [Option.eq_none_iff_forall_ne_some]
    intro rule found
    obtain ⟨listed, named⟩ := (Registry.get?_registerValues_iff remaining "ghost" rule).mp found
    rw [(known rule).mp listed] at named
    exact absurd named (by decide)
  · have satisfied := (status_eq_zero_iff loads_warned complete remaining).mp passed
    exact not_holds_amendedRule
      (satisfied rfl amendedRule ((known amendedRule).mpr rfl) (.inl rfl))
  · apply (status_eq_zero_iff loads_warned complete remaining).mpr
    intro _ rule listed selected
    obtain rfl := (known rule).mp listed
    exact absurd selected (by simp [CheckRequest.Selects, amendedRule, Registry.cautionRule])

end Cli

end Compliance
