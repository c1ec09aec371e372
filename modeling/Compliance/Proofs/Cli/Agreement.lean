import Compliance.Cli.Run
import Compliance.Proofs.Cli.Table
import Compliance.Proofs.Engine.Account
import Compliance.Proofs.Files.Write
import Compliance.Proofs.Project.Rules
import Compliance.Proofs.Registry.Remaining

/-!
The commands held against each other. Each of them loads the project for itself, and what it lists,
writes, evaluates or counts is one rule set: of the definitions in the rule files those that are
accepted, and of these under each id the last one.
-/

namespace Compliance

open scoped List

theorem Engine.evaluateAll_fst {engine : Engine} (kept : engine.registry.WellKept) (text : String)
    (clock : Clock) : (engine.evaluateAll text clock).1 = engine.summarize
      (engine.registry.toList.zipIdx.map fun (rule, position) => .evaluated
        (rule.evaluate (Document.ofText text) engine.config.contextRadius (clock.rule position)))
      clock.whole := by
  rw [evaluateAll, evaluateMany]
  dsimp only
  rw [reports_fst, ← kept.map_id_toList, List.zipIdx_map, List.map_map]
  congr 1
  apply List.map_congr_left
  rintro ⟨rule, position⟩ listed
  exact reportOn_of_some (kept.get?_of_mem_toList (List.fst_mem_of_mem_zipIdx listed)) _ _

namespace Cli

def reportsOn (world : World) (config : ProjectConfig) (rules : List Rule) (text : String) :
    List RuleReport :=
  rules.zipIdx.map fun (rule, position) => .evaluated
    (rule.evaluate (Document.ofText text) config.engine.contextRadius (world.clock.rule position))

def aggregateOn (world : World) (config : ProjectConfig) (rules : List Rule) (text : String) :
    Aggregate :=
  .ofReports config.engine.criticalSeverity (reportsOn world config rules text) world.clock.whole

/-- The part of a report has the heading of the rule. -/
def IsOn (part : String) (rule : Rule) : Prop :=
  ∃ rest, part = "\n=== Rule " ++ rule.id ++ " ===\n" ++ rest

def exported (rules : List Rule) : Json := .array (rules.map Rule.toJson)

/-- What the commands make of a project with these settings. The definitions are those in its rule
files, in the order of the files and within them, and the rules are those of every command. -/
structure Agreement (world : World) (project : String) (config : ProjectConfig)
    (definitions : List Json) (rules : List Rule) : Prop where
  found : ∃ paths parts,
    RuleSource.ruleFiles world.files (RuleSource.ofConfig project config).paths = .ok paths ∧
      List.Forall₂ (fun path part => RuleSource.parse world.files path = .ok part) paths parts ∧
        parts.flatten = definitions
  configured :
    ProjectConfig.loadOrStandard world.files world.environment project = .ok config
  remaining : Remaining (acceptedRules (definitions.map Rule.ofJson)) rules
  listed : ∃ drawing, (execute world (.list project)).stdout =
      (if rules = [] then line ("📭 No rules registered for '" ++ config.name ++ "'.")
      else line ("📚 Rules of '" ++ config.name ++ "' (" ++ toString rules.length ++ "):") ++
        line drawing) ∧
    (Table.read drawing).map List.head? =
      some "ID" :: rules.map fun rule => some (Table.visible rule.id)
  legible : ∀ rule ∈ rules, Table.Legible rule.id → Table.visible rule.id = rule.id
  member : ∀ rule ∈ rules, (rule.toJson.member? "id").bind Json.text? = some rule.id
  written : ∀ output, (execute world (.save project output)).status = 0 →
    ∃ location, location.getLast? = (Path.names output).getLast? ∧
      (execute world (.save project output)).files.at? location =
        some (.file (exported rules).pretty.toUTF8)
  reread : ∀ items, Json.listOfText (exported rules).pretty = .ok items →
    items.map Rule.ofJson = rules.map .ok
  checked : ∀ request text, request.project = project → request.rules = [] →
    world.files.readText request.document = .ok text →
      (execute world (.check request)).stdout =
        checkStdout request config (aggregateOn world config rules text)
  printed : ∀ request text, request.project = project → request.rules = [] →
    request.format = .json → world.files.readText request.document = .ok text →
      ∃ (document : Json) (reports : List Json),
        (execute world (.check request)).stdout = line document.pretty ∧
        document.member? "results" = some (.array reports) ∧
          (reports.map fun report => (report.member? "rule_id").bind Json.text?) =
            rules.map fun rule => some rule.id
  reported : ∀ request text, request.project = project → request.rules = [] →
    request.format = .text → world.files.readText request.document = .ok text →
      ∃ start parts closing,
        (execute world (.check request)).stdout = start ++ String.join parts ++ closing ∧
          List.Forall₂ IsOn parts rules
  validated : ∃ valid rejected, valid = (acceptedRules (definitions.map Rule.ofJson)).length ∧
    definitions.length = valid + rejected ∧
    (execute world (.validate project)).stdout =
      validateStart ++ line ("   Project: " ++ config.name) ++
        line ("   Rules: " ++ toString definitions.length ++ " total, " ++ toString valid ++
          " valid, " ++ toString rejected ++ " rejected") ++
        (if rejected = 0 then line "✅ All rule definitions are valid." else "") ∧
    ((execute world (.validate project)).status = 0 ↔ rejected = 0)

theorem load_eq_ok {world : World} {project : String} {loaded : Loaded}
    (loads : load world project = .ok loaded) :
    ProjectConfig.loadOrStandard world.files world.environment project = .ok loaded.config ∧
    ∃ definitions, (RuleSource.ofConfig project loaded.config).load world.files = .ok definitions ∧
        loaded.engine.config = loaded.config.engine ∧
        loaded.engine.registry = (Registry.empty.registerValues definitions).registry ∧
        loaded.summary = (Registry.empty.registerValues definitions).summary := by
  rw [load] at loads
  split at loads
  · cases loads
  · split at loads
    · cases loads
    · rename_i config configured _ engine summary built
      obtain ⟨definitions, found, rfl, rfl⟩ := (RuleSource.engine_eq_ok_iff ..).mp built
      rw [← Except.ok.inj loads]
      exact ⟨configured, definitions, found, rfl, rfl, rfl⟩

section Loaded

variable {world : World} {project : String} {loaded : Loaded}
  (loads : load world project = .ok loaded)
include loads

theorem stdout_list : (execute world (.list project)).stdout =
    if loaded.engine.registry.toList = [] then
      line ("📭 No rules registered for '" ++ loaded.config.name ++ "'.")
    else
      line ("📚 Rules of '" ++ loaded.config.name ++ "' (" ++
          toString loaded.engine.registry.toList.length ++ "):") ++
        line (rulesTable loaded.engine.registry.toList).draw := by
  rw [execute, list, loads]
  simp [Registry.isEmpty, Registry.toList, Registry.size]

theorem at?_save {output : String} (done : (execute world (.save project output)).status = 0) :
    ∃ location, location.getLast? = (Path.names output).getLast? ∧
      (execute world (.save project output)).files.at? location =
        some (.file loaded.engine.registry.exportText.toUTF8) := by
  rw [execute, save, loads] at done ⊢
  dsimp only at done ⊢
  split at done
  · cases done
  · rename_i written
    exact FileTree.at?_of_writeExport written

theorem stdout_check (complete : ∀ tasks, world.schedule tasks ~ tasks) {request : CheckRequest}
    {text : String} (same : request.project = project) (all : request.rules = [])
    (readable : world.files.readText request.document = .ok text) :
    (execute world (.check request)).stdout = checkStdout request loaded.config
      (loaded.engine.evaluateAll text world.clock).1 := by
  have selected : selectedRules request loaded.engine = loaded.engine.registry.ids := by
    rw [selectedRules, all]
    rfl
  rw [execute, check, readable, same, loads]
  dsimp only
  rw [selected, loaded.engine.evaluateConcurrently_fst _ complete]
  rfl

theorem validate_loaded :
    (execute world (.validate project)).stdout =
        validateStart ++ line ("   Project: " ++ loaded.config.name) ++
          line ("   Rules: " ++ toString loaded.summary.total ++ " total, " ++
            toString loaded.summary.successful ++ " valid, " ++ toString loaded.summary.failed ++
              " rejected") ++
          (if loaded.summary.failed = 0 then line "✅ All rule definitions are valid." else "") ∧
      ((execute world (.validate project)).status = 0 ↔ loaded.summary.failed = 0) := by
  rw [execute, validate, loads]
  dsimp only
  by_cases clean : loaded.summary.failed = 0
  · simp [Summary.isClean, clean]
  · simp [Summary.isClean, clean]

end Loaded

theorem full_rulesTable (rules : List Rule) : (rulesTable rules).Full := by
  refine ⟨by simp [rulesTable], List.forall_mem_map.mpr fun rule _ => ?_⟩
  rfl

theorem head?_read_rulesTable (rules : List Rule) :
    (Table.read (rulesTable rules).draw).map List.head? =
      some "ID" :: rules.map fun rule => some (Table.visible rule.id) := by
  have heading : Table.visible "ID" = "ID" := Table.visible_eq_self (by decide)
  rw [Table.read_draw (full_rulesTable rules), rulesTable, List.map_cons, List.map_cons,
    List.map_cons, List.head?_cons, heading, List.map_map, List.map_map]
  rfl

section Check

variable (world : World) (request : CheckRequest) (config : ProjectConfig) (rules : List Rule)
  (text : String)

theorem results_reportsOn :
    ((reportsOn world config rules text).map RuleReport.toJson).map
        (fun report => (report.member? "rule_id").bind Json.text?) =
      rules.map fun rule => some rule.id := by
  conv => rhs; rw [← List.zipIdx_map_fst 0 rules]
  rw [reportsOn, List.map_map, List.map_map, List.map_map]
  rfl

theorem isOn_ofLines (rule : Rule) (document : Document) (radius : Nat)
    (clock : ClockReading) :
    IsOn (Report.ofLines ("" ::
      Report.reportLines (.evaluated (rule.evaluate document radius clock)))) rule := by
  obtain ⟨others, lines⟩ : ∃ others,
      Report.reportLines (.evaluated (rule.evaluate document radius clock)) =
        ("=== Rule " ++ rule.id ++ " ===") :: others := ⟨_, rfl⟩
  refine ⟨Report.ofLines others, ?_⟩
  rw [lines, ofLines_cons, ofLines_cons]
  simp [← String.toList_inj]

theorem report_aggregateOn : ∃ start parts,
    (aggregateOn world config rules text).report = start ++ String.join parts ∧
      List.Forall₂ IsOn parts rules := by
  rw [Aggregate.report, Report.aggregateLines, ofLines_append, ofLines_flatMap]
  refine ⟨_, _, rfl, ?_⟩
  conv => rhs; rw [← List.zipIdx_map_fst 0 rules]
  have reports : (aggregateOn world config rules text).reports =
      reportsOn world config rules text := rfl
  rw [reports, reportsOn, List.map_map, List.forall₂_map_left_iff, List.forall₂_map_right_iff]
  refine List.forall₂_same.mpr fun listed _ => ?_
  dsimp only [Function.comp_apply]
  exact isOn_ofLines ..

end Check

/-- Whatever project loads, in whatever order its checks run, the commands agree on its rules. -/
theorem commands_agree {world : World} {project : String} {loaded : Loaded}
    (loads : load world project = .ok loaded)
    (complete : ∀ tasks, world.schedule tasks ~ tasks) :
    ∃ definitions rules, Agreement world project loaded.config definitions rules := by
  obtain ⟨configured, definitions, found, settings, registered, counted⟩ := load_eq_ok loads
  have kept := Registry.wellKept_empty.registerValues definitions
  rw [← registered] at kept
  -- the one list that every command is held against is what the registry lists
  have checked : ∀ request text, request.project = project → request.rules = [] →
      world.files.readText request.document = .ok text →
        (execute world (.check request)).stdout = checkStdout request loaded.config
          (aggregateOn world loaded.config loaded.engine.registry.toList text) := by
    intro request text same all readable
    rw [stdout_check loads complete same all readable, Engine.evaluateAll_fst kept,
      Engine.summarize, settings]
    rfl
  refine ⟨definitions, loaded.engine.registry.toList,
    { found := (RuleSource.load_eq_ok_iff ..).mp found
      configured := configured
      remaining := registered ▸ Registry.remaining_toList definitions
      listed := ⟨_, stdout_list loads, head?_read_rulesTable _⟩
      legible := fun _ _ => Table.visible_eq_self
      member := fun _ _ => rfl
      written := fun _ done => at?_save loads done
      reread := ?_
      checked := checked
      printed := ?_
      reported := ?_
      validated := ?_ }⟩
  · intro items read
    by_cases shallow : loaded.engine.registry.Shallow
    · have whole := kept.listOfText_exportText.1 shallow
      obtain rfl := Except.ok.inj (read.symm.trans whole)
      exact kept.ofJson_sortedItems
    · obtain ⟨fault, _, refused⟩ := kept.listOfText_exportText.2 shallow
      cases read.symm.trans refused
  · intro request text same all json readable
    refine ⟨(aggregateOn world loaded.config loaded.engine.registry.toList text).toJson, _, ?_, rfl,
      results_reportsOn ..⟩
    rw [checked request text same all readable, checkStdout, json]
  · intro request text same all plain readable
    obtain ⟨start, parts, spelled, each⟩ :=
      report_aggregateOn world loaded.config loaded.engine.registry.toList text
    rw [checked request text same all readable, checkStdout, plain]
    dsimp only
    have parted (before joined after : String) : before ++ line (start ++ joined) ++ after =
        before ++ start ++ joined ++ ("\n" ++ after) := by
      simp only [line, String.append_assoc]
    rw [spelled, parted]
    exact ⟨_, parts, _, rfl, each⟩
  · obtain ⟨total, valid, balance⟩ := Registry.counts_registerValues definitions
    rw [← counted] at total valid balance
    obtain ⟨printed, ended⟩ := validate_loaded loads
    refine ⟨_, _, valid, total ▸ balance, ?_, ended⟩
    rw [printed, total]

def amendedRule : Rule := { Registry.cautionRule "c10" with source := "Code D" }

/-- A rule, something that is none, and the rule again with another source. -/
def amendedItems : List Json := [(Registry.cautionRule "c10").toJson, .null, amendedRule.toJson]

def amendedConfig : ProjectConfig := { rulePaths := ["r.json"] }

def amended : World where
  files := { entries := [(["r.json"], .file (Json.array amendedItems).pretty.toUTF8)] }
  environment := { rulePaths := some "r.json" }
  clock := ⟨fun _ => ⟨.epoch, 0⟩, ⟨.epoch, 0⟩⟩
  schedule := List.reverse

theorem names_amended : ∀ name ∈ "r.json" :: configNames, Path.names name = [name] := by
  simp only [Path.names_eq]
  decide

theorem locate_amended (followLast : Bool) : ∀ name ∈ "r.json" :: configNames,
    amended.files.locate followLast name = amended.files.locateNames followLast false [name] := by
  have relative : ∀ name ∈ "r.json" :: configNames, Path.isAbsolute name = false := by
    decide +kernel
  have closed : ∀ name ∈ "r.json" :: configNames, Path.endsWithSlash name = false := by
    decide +kernel
  intro name listed
  exact amended.files.locate_bare followLast (names_amended name listed) (relative name listed)
    (closed name listed)

theorem override_amended :
    amended.environment.override ProjectConfig.standard = amendedConfig := by
  have paths : Environment.pathsOf "r.json" = ["r.json"] := by
    rw [Environment.pathsOf, splitOn_eq _ ',']
    rfl
  simp [amended, amendedConfig, Environment.override, Environment.overridePaths, paths,
    Environment.overrideRadius, ProjectConfig.standard]

theorem configured_amended :
    ProjectConfig.loadOrStandard amended.files amended.environment "" = .ok amendedConfig := by
  have joined : ∀ name ∈ configNames, Path.join "" name = name := by decide +kernel
  have absent : ∀ name ∈ configNames,
      (amended.files.locateNames true false [name]).isOk = false := by decide
  have unset : ∀ name ∈ configNames,
      amended.files.exists? (Path.join "" name) = false := by
    intro name listed
    rw [joined name listed, FileTree.exists?,
      locate_amended true name (List.mem_cons_of_mem _ listed)]
    exact absent name listed
  rw [ProjectConfig.loadOrStandard_of_unset unset, override_amended]

theorem locate_rules (followLast : Bool) : amended.files.locate followLast "r.json" =
    .ok (["r.json"], .file (Json.array amendedItems).pretty.toUTF8) := by
  rw [locate_amended followLast _ List.mem_cons_self]
  rfl

theorem splitOn_rules : "r.json".splitOn "." = ["r", "json"] := by
  rw [splitOn_eq _ '.']
  rfl

theorem extension_rules : Path.extension? "r.json" = some "json" := by
  have relative : Path.isAbsolute "r.json" = false := by decide +kernel
  have components : Path.components "r.json" = ["r.json"] := by
    rw [Path.components, names_amended _ List.mem_cons_self, relative]
    rfl
  rw [Path.extension?, components]
  simp [splitOn_rules]

theorem numberless_amended : ∀ item ∈ amendedItems, item.Numberless := by
  simp only [amendedItems, List.forall_mem_cons]
  exact ⟨Rule.numberless_toJson _, .null, Rule.numberless_toJson _, nofun⟩

theorem found_amended :
    (RuleSource.ofConfig "" amendedConfig).load amended.files =
      .ok (Json.sortedItems amendedItems) := by
  have joined : amendedConfig.rulePaths.map (Path.join "") = ["r.json"] := by decide +kernel
  rw [RuleSource.ofConfig, joined]
  exact RuleSource.load_pretty locate_rules rfl extension_rules numberless_amended (by decide)

theorem acceptedRules_amended :
    acceptedRules ((Json.sortedItems amendedItems).map Rule.ofJson) =
      [Registry.cautionRule "c10", amendedRule] := by
  have first : (Registry.cautionRule "c10").Valid := rfl
  have second : amendedRule.Valid := rfl
  rw [Json.sortedItems_eq_map, amendedItems]
  simp only [List.map_cons, List.map_nil, first.ofJson_toJson, second.ofJson_toJson]
  rfl

theorem load_amended : ∃ loaded, load amended "" = .ok loaded ∧ loaded.config = amendedConfig := by
  obtain ⟨engine, summary, built⟩ : ∃ engine summary,
      (RuleSource.ofConfig "" amendedConfig).engine amended.files amendedConfig.engine =
        .ok (engine, summary) :=
    ⟨_, _, (RuleSource.engine_eq_ok_iff ..).mpr ⟨_, found_amended, rfl, rfl⟩⟩
  refine ⟨⟨amendedConfig, engine, summary⟩, ?_, rfl⟩
  rw [load, configured_amended]
  dsimp only
  rw [built]

/-- The rule that comes twice counts as it came last, and what is no rule is rejected. -/
theorem commands_agree_amended : ∃ definitions rules,
    Agreement amended "" amendedConfig definitions rules ∧
      (rules.find? fun rule => rule.id = "c10") = some amendedRule ∧
        (execute amended (.validate "")).status ≠ 0 := by
  obtain ⟨loaded, loads, settings⟩ := load_amended
  obtain ⟨definitions, rules, agreement⟩ := commands_agree loads fun tasks => tasks.reverse_perm
  rw [settings] at agreement
  have found := (RuleSource.load_eq_ok_iff ..).mpr agreement.found
  obtain rfl : Json.sortedItems amendedItems = definitions :=
    Except.ok.inj (found_amended.symm.trans found)
  have latest := agreement.remaining.latest "c10"
  obtain ⟨valid, rejected, counted, total, _, status⟩ := agreement.validated
  rw [acceptedRules_amended] at latest counted
  have three : (Json.sortedItems amendedItems).length = 3 := rfl
  have two : valid = 2 := counted
  have one : rejected = 1 := by omega
  refine ⟨_, rules, agreement, latest, ?_⟩
  rw [Ne, status, one]
  decide

end Cli

end Compliance
