import Compliance.Proofs.Files.Tree
import Compliance.Proofs.Project.Record
import Compliance.Proofs.Text.Sentence

/-!
Which settings are in effect: those of the settings file, or the standard ones where there is no
such file, with the rule paths and the radius that the environment names. Settings with blank rule
paths alone are turned down, and it is the rule paths in effect that count.
-/

namespace Compliance

section Counts

open Yaml.Plain

/-- The text is a number of 64 bits in decimal digits, between blanks, after a plus sign or not. -/
structure Counts (text : String) (value : Nat) : Prop where
  fits : value < wordCount
  spelled : ∃ digits,
    (Text.trimmed text.toList = digits ∨ Text.trimmed text.toList = '+' :: digits) ∧ digits ≠ [] ∧
       (∀ c ∈ digits, c.isDigit = true) ∧ Nat.ofDigitChars 10 digits 0 = value

theorem Environment.radiusOf?_iff (text : String) (value : Nat) :
    radiusOf? text = some value ↔ Counts text value := by
  have unsigned {digits : List Char} (each : ∀ c ∈ digits, c.isDigit = true) :
      digits.head? ≠ some '+' := by
    intro plus
    have sign := each '+' (List.mem_of_head? plus)
    exact absurd sign (by decide)
  rw [radiusOf?]
  rw [Option.filter_eq_some_iff, decide_eq_true_eq, natural?_ten_iff]
  constructor
  · rintro ⟨⟨some, each, total⟩, fits⟩
    refine ⟨fits, _, ?_, some, each, total⟩
    split
    · rename_i signed
      right
      obtain ⟨rest, split⟩ := List.head?_eq_some_iff.mp (eq_of_beq signed)
      rw [split]
      rfl
    · exact .inl rfl
  · rintro ⟨fits, digits, spelled, some, each, total⟩
    refine ⟨?_, fits⟩
    rcases spelled with plain | signed
    · have same : (digits.head? == Option.some '+') = false := by
        rw [beq_eq_false_iff_ne]
        exact unsigned each
      rw [plain, same]
      exact ⟨some, each, total⟩
    · rw [signed]
      exact ⟨some, each, total⟩

end Counts

namespace Environment

/-- The stretches of a text between its commas, each without the blanks around it. Those that are
blank do not count. -/
def listed (text : String) : List String :=
  ((text.toList.splitOnP fun c => c == ',').filter fun piece => !Text.allBlank piece).map
    fun piece => String.ofList (Text.trimmed piece)

def named (environment : Environment) : List String :=
  (environment.rulePaths.map listed).getD []

/-- The settings are the given ones but for what the environment puts in their place. -/
structure Overrides (environment : Environment) (given config : ProjectConfig) : Prop where
  named : environment.named ≠ [] → config.rulePaths = environment.named
  unnamed : environment.named = [] → config.rulePaths = given.rulePaths
  counted : ∀ text value, environment.contextRadius = some text → Counts text value →
    config.engine.contextRadius = value
  uncounted : (∀ text value, environment.contextRadius = some text → ¬ Counts text value) →
    config.engine.contextRadius = given.engine.contextRadius
  name : config.name = given.name
  criticalSeverity : config.engine.criticalSeverity = given.engine.criticalSeverity
  recordHistory : config.engine.recordHistory = given.engine.recordHistory

theorem pathsOf_eq_listed (text : String) : pathsOf text = listed text := by
  have split : text.splitOn "," = (text.toList.splitOnP fun c => c == ',').map String.ofList :=
    splitOn_eq text ','
  have kept : (fun path : String => !path.isEmpty) ∘ trim ∘ String.ofList =
      fun piece => !Text.allBlank piece := by
    funext piece
    have same : (trim (String.ofList piece)).isEmpty = Text.allBlank piece := by
      rw [Bool.eq_iff_iff, ← Text.trimmed_eq_nil_iff]
      simp [trim]
    simp only [Function.comp_apply, same]
  rw [pathsOf, split, List.map_map, List.filter_map, kept, listed]
  refine List.map_congr_left fun piece _ => ?_
  rw [Function.comp_apply, trim, String.toList_ofList]

theorem visible_of_mem_listed {text path : String} (member : path ∈ listed text) :
    isBlankText path = false := by
  obtain ⟨piece, kept, rfl⟩ := List.mem_map.mp member
  have visible := (List.mem_filter.mp kept).2
  rw [Bool.not_eq_true', ← Bool.not_eq_true, ← Text.allBlank_trimmed_iff, Bool.not_eq_true]
    at visible
  rw [isBlankText, String.toList_ofList, visible]

theorem visible_of_mem_named {environment : Environment} {path : String}
    (member : path ∈ environment.named) : isBlankText path = false := by
  rw [named] at member
  cases given : environment.rulePaths with
  | none => simp [given] at member
  | some text =>
      rw [given] at member
      exact visible_of_mem_listed member

theorem overridePaths_eq (environment : Environment) (config : ProjectConfig) :
    environment.overridePaths config =
      { config with
        rulePaths := if environment.named = [] then config.rulePaths else environment.named } := by
  have named : (environment.rulePaths.map pathsOf).getD [] = environment.named := by
    rw [Environment.named, funext pathsOf_eq_listed]
  rw [overridePaths, named]
  cases environment.named <;> rfl

theorem overrides_override (environment : Environment) (given : ProjectConfig) :
    environment.Overrides given (environment.override given) := by
  have radius : ∀ value, environment.contextRadius.bind radiusOf? = some value ↔
      ∃ text, environment.contextRadius = some text ∧ Counts text value := by
    intro value
    rw [Option.bind_eq_some_iff]
    simp only [radiusOf?_iff]
  rw [override, overridePaths_eq, overrideRadius]
  cases counted : environment.contextRadius.bind radiusOf? with
  | none =>
      refine ⟨fun some => if_neg some, fun none => if_pos none, ?_, fun _ => rfl, rfl, rfl, rfl⟩
      intro text value present counts
      have found := (radius value).mpr ⟨text, present, counts⟩
      rw [counted] at found
      contradiction
  | some count =>
      refine ⟨fun some => if_neg some, fun none => if_pos none, ?_, ?_, rfl, rfl, rfl⟩
      · intro text value present counts
        have found := (radius value).mpr ⟨text, present, counts⟩
        rw [counted] at found
        exact Option.some.inj found
      · intro never
        obtain ⟨text, present, counts⟩ := (radius count).mp counted
        exact absurd counts (never text count present)

theorem Overrides.unique {environment : Environment} {given left right : ProjectConfig}
    (first : environment.Overrides given left) (second : environment.Overrides given right) :
    left = right := by
  have paths : left.rulePaths = right.rulePaths := by
    by_cases none : environment.named = []
    · rw [first.unnamed none, second.unnamed none]
    · rw [first.named none, second.named none]
  have radius : left.engine.contextRadius = right.engine.contextRadius := by
    by_cases counted : ∃ text value, environment.contextRadius = some text ∧ Counts text value
    · obtain ⟨text, value, present, counts⟩ := counted
      rw [first.counted text value present counts, second.counted text value present counts]
    · have never : ∀ text value, environment.contextRadius = some text → ¬ Counts text value :=
        fun text value present counts => counted ⟨text, value, present, counts⟩
      rw [first.uncounted never, second.uncounted never]
  have name := first.name.trans second.name.symm
  have critical := first.criticalSeverity.trans second.criticalSeverity.symm
  have history := first.recordHistory.trans second.recordHistory.symm
  obtain ⟨leftName, leftPaths, leftRadius, leftCritical, leftHistory⟩ := left
  obtain ⟨rightName, rightPaths, rightRadius, rightCritical, rightHistory⟩ := right
  simp_all

theorem overrides_iff (environment : Environment) (given config : ProjectConfig) :
    environment.Overrides given config ↔ environment.override given = config :=
  ⟨fun overrides => (overrides_override environment given).unique overrides,
    fun same => same ▸ overrides_override environment given⟩

end Environment

namespace ProjectConfig

variable {files : FileTree} {environment : Environment} {directory : String}

/-- The settings file of a project has one of two names. The second counts only if there is nothing
under the first. -/
inductive SettingsFile (files : FileTree) (directory : String) : String → Prop
  | first : files.exists? (Path.join directory "forensic.yaml") = true →
      SettingsFile files directory (Path.join directory "forensic.yaml")
  | second : files.exists? (Path.join directory "forensic.yaml") = false →
      files.exists? (Path.join directory "forensic.yml") = true →
        SettingsFile files directory (Path.join directory "forensic.yml")

def Configured (files : FileTree) (directory : String) : Prop :=
  ∃ name ∈ configNames, files.exists? (Path.join directory name) = true

/-- The settings file can be read, and these are the settings that it says. -/
def Written (files : FileTree) (directory : String) (written : ProjectConfig) : Prop :=
  ∃ path text, SettingsFile files directory path ∧ files.readText path = .ok text ∧
    IsSaid text written

theorem path?_eq_some_iff {path : String} :
    path? files directory = some path ↔ SettingsFile files directory path := by
  have search : path? files directory =
      if files.exists? (Path.join directory "forensic.yaml") = true then
        some (Path.join directory "forensic.yaml")
      else if files.exists? (Path.join directory "forensic.yml") = true then
        some (Path.join directory "forensic.yml")
      else none := by
    rw [path?, configNames, List.map_cons, List.map_singleton, List.find?_cons,
      List.find?_singleton]
    split <;> simp_all
  rw [search]
  constructor
  · intro found
    split at found
    · rename_i present
      rw [← Option.some.inj found]
      exact .first present
    · rename_i absent
      split at found
      · rename_i present
        rw [← Option.some.inj found]
        exact .second (Bool.not_eq_true _ ▸ absent) present
      · cases found
  · intro found
    cases found with
    | first present => rw [if_pos present]
    | second absent present => rw [absent, present]; rfl

theorem path?_eq_none_iff : path? files directory = none ↔ ¬ Configured files directory := by
  simp [path?, Configured]

theorem SettingsFile.configured {path : String} (settings : SettingsFile files directory path) :
    Configured files directory := by
  cases settings with
  | first present => exact ⟨_, List.mem_cons_self, present⟩
  | second _ present => exact ⟨_, List.mem_cons_of_mem _ List.mem_cons_self, present⟩

theorem written_iff {path : String} (settings : SettingsFile files directory path)
    (written : ProjectConfig) : Written files directory written ↔
      ∃ text, files.readText path = .ok text ∧ IsSaid text written := by
  constructor
  · rintro ⟨other, text, found, readable, parsed⟩
    have same : some other = some path :=
      (path?_eq_some_iff.mpr found).symm.trans (path?_eq_some_iff.mpr settings)
    rw [Option.some.inj same] at readable
    exact ⟨text, readable, parsed⟩
  · rintro ⟨text, readable, parsed⟩
    exact ⟨path, text, settings, readable, parsed⟩

theorem Written.unique {left right : ProjectConfig} (first : Written files directory left)
    (second : Written files directory right) : left = right := by
  obtain ⟨path, text, settings, readable, parsed⟩ := first
  obtain ⟨other, same, again⟩ := (written_iff settings right).mp second
  rw [readable] at same
  rw [← Except.ok.inj same] at again
  exact parsed.unique again

/-- Without settings that can be read, loading ends in another fault than that of blank paths. -/
inductive Unwritten (files : FileTree) (directory : String) : ProjectFault → Prop
  | absent : ¬ Configured files directory →
      Unwritten files directory (.noConfig (quotedPath directory))
  | unreadable (error : IoError) : Configured files directory →
      Unwritten files directory (.io error)
  | unparsed (fault : Yaml.Fault) : Configured files directory →
      Unwritten files directory (.yaml fault)

theorem load_of_written {written : ProjectConfig} (found : Written files directory written)
    (environment : Environment) : load files environment directory =
      if (environment.override written).rulePaths.all isBlankText then
        .error (.noRulePaths (environment.override written).name)
      else .ok (environment.override written) := by
  obtain ⟨path, text, settings, readable, said⟩ := found
  rw [load, path?_eq_some_iff.mpr settings]
  simp only [readable, (ofText_eq_ok_iff text written).mpr said]

theorem load_of_unwritten (unwritten : ∀ written, ¬ Written files directory written)
    (environment : Environment) :
    ∃ fault, Unwritten files directory fault ∧ load files environment directory = .error fault := by
  rw [load]
  cases found : path? files directory with
  | none => exact ⟨_, .absent (path?_eq_none_iff.mp found), rfl⟩
  | some path =>
      have settings := path?_eq_some_iff.mp found
      dsimp only
      cases readable : files.readText path with
      | error error => exact ⟨_, .unreadable error settings.configured, rfl⟩
      | ok text =>
          dsimp only
          cases parsed : ofText text with
          | error fault => exact ⟨_, .unparsed fault settings.configured, rfl⟩
          | ok written =>
              have said := (ofText_eq_ok_iff text written).mp parsed
              exact absurd ⟨path, text, settings, readable, said⟩ (unwritten written)

theorem load_eq_ok_iff (config : ProjectConfig) : load files environment directory = .ok config ↔
    ∃ written, Written files directory written ∧ environment.Overrides written config ∧
      ∃ path ∈ config.rulePaths, isBlankText path = false := by
  simp only [Environment.overrides_iff]
  by_cases readable : ∃ written, Written files directory written
  · obtain ⟨written, found⟩ := readable
    rw [load_of_written found]
    constructor
    · intro loaded
      split at loaded
      · cases loaded
      · rename_i visible
        rw [← Except.ok.inj loaded]
        exact ⟨written, found, rfl, by simpa using visible⟩
    · rintro ⟨other, again, rfl, visible⟩
      rw [found.unique again, if_neg (by simpa using visible)]
  · obtain ⟨fault, _, failed⟩ := load_of_unwritten (not_exists.mp readable) environment
    rw [failed]
    constructor
    · nofun
    · rintro ⟨written, found, _⟩
      exact absurd ⟨written, found⟩ readable

theorem load_eq_noRulePaths_iff (name : String) :
    load files environment directory = .error (.noRulePaths name) ↔
      ∃ written config, Written files directory written ∧ environment.Overrides written config ∧
        (∀ path ∈ config.rulePaths, isBlankText path = true) ∧ config.name = name := by
  simp only [Environment.overrides_iff]
  by_cases readable : ∃ written, Written files directory written
  · obtain ⟨written, found⟩ := readable
    rw [load_of_written found]
    constructor
    · intro failed
      split at failed
      · rename_i blank
        rw [← ProjectFault.noRulePaths.inj (Except.error.inj failed)]
        exact ⟨written, _, found, rfl, List.all_eq_true.mp blank, rfl⟩
      · cases failed
    · rintro ⟨other, _, again, rfl, blank, rfl⟩
      rw [found.unique again, if_pos (List.all_eq_true.mpr blank)]
  · obtain ⟨fault, unwritten, failed⟩ := load_of_unwritten (not_exists.mp readable) environment
    rw [failed]
    constructor
    · intro same
      rw [Except.error.inj same] at unwritten
      cases unwritten
    · rintro ⟨written, _, found, _⟩
      exact absurd ⟨written, found⟩ readable

theorem load_eq_noConfig_iff (place : String) :
    load files environment directory = .error (.noConfig place) ↔
      ¬ Configured files directory ∧ place = quotedPath directory := by
  constructor
  · intro failed
    by_cases readable : ∃ written, Written files directory written
    · obtain ⟨written, found⟩ := readable
      rw [load_of_written found] at failed
      split at failed <;> cases failed
    · obtain ⟨fault, unwritten, same⟩ := load_of_unwritten (not_exists.mp readable) environment
      rw [same] at failed
      rw [Except.error.inj failed] at unwritten
      cases unwritten with
      | absent unset => exact ⟨unset, rfl⟩
  · rintro ⟨unset, rfl⟩
    rw [load, path?_eq_none_iff.mpr unset]

theorem loadOrStandard_of_configured (configured : Configured files directory) :
    loadOrStandard files environment directory = load files environment directory := by
  rw [loadOrStandard]
  split
  · rename_i place failed
    exact absurd configured ((load_eq_noConfig_iff place).mp failed).1
  · rfl

theorem loadOrStandard_of_not_configured (unset : ¬ Configured files directory) :
    loadOrStandard files environment directory = .ok (environment.override standard) := by
  rw [loadOrStandard, (load_eq_noConfig_iff _).mpr ⟨unset, rfl⟩]

theorem loadOrStandard_of_unset
    (unset : ∀ name ∈ configNames, files.exists? (Path.join directory name) = false)
    (environment : Environment) :
    loadOrStandard files environment directory = .ok (environment.override standard) := by
  apply loadOrStandard_of_not_configured
  rintro ⟨name, listed, present⟩
  rw [unset name listed] at present
  contradiction

theorem visible_of_overrides_usual {config : ProjectConfig}
    (overrides : environment.Overrides usual config) :
    ∃ path ∈ config.rulePaths, isBlankText path = false := by
  by_cases none : environment.named = []
  · rw [overrides.unnamed none]
    exact ⟨"rules", List.mem_cons_self, by decide⟩
  · rw [overrides.named none]
    obtain ⟨path, others, named⟩ := List.exists_cons_of_ne_nil none
    have member : path ∈ environment.named := by
      rw [named]
      exact List.mem_cons_self
    exact ⟨path, member, Environment.visible_of_mem_named member⟩

/-- The settings in effect are those of the settings file, or the standard ones where there is none,
with what the environment puts in their place. There is a path to look for rules in, or it is said
that there is none. -/
theorem load_effective (files : FileTree) (environment : Environment) (directory : String) :
    (Configured files directory →
      loadOrStandard files environment directory = load files environment directory) ∧
    (¬ Configured files directory →
      load files environment directory = .error (.noConfig (quotedPath directory)) ∧
        ∃ config, environment.Overrides usual config ∧
          loadOrStandard files environment directory = .ok config) ∧
    (∀ config, load files environment directory = .ok config ↔
      ∃ written, Written files directory written ∧ environment.Overrides written config ∧
        ∃ path ∈ config.rulePaths, isBlankText path = false) ∧
    (∀ config, loadOrStandard files environment directory = .ok config →
      ∃ path ∈ config.rulePaths, isBlankText path = false) ∧
    ∀ name, (load files environment directory = .error (.noRulePaths name) ↔
        ∃ written config, Written files directory written ∧ environment.Overrides written config ∧
          (∀ path ∈ config.rulePaths, isBlankText path = true) ∧ config.name = name) ∧
      (loadOrStandard files environment directory = .error (.noRulePaths name) ↔
        load files environment directory = .error (.noRulePaths name)) := by
  have overridden : environment.Overrides usual (environment.override standard) :=
    Environment.overrides_override environment standard
  refine ⟨loadOrStandard_of_configured, fun unset => ⟨?_, _, overridden,
    loadOrStandard_of_not_configured unset⟩, load_eq_ok_iff, ?_, ?_⟩
  · exact (load_eq_noConfig_iff _).mpr ⟨unset, rfl⟩
  · intro config loaded
    by_cases configured : Configured files directory
    · rw [loadOrStandard_of_configured configured] at loaded
      obtain ⟨_, _, _, visible⟩ := (load_eq_ok_iff config).mp loaded
      exact visible
    · rw [loadOrStandard_of_not_configured configured] at loaded
      rw [← Except.ok.inj loaded]
      exact visible_of_overrides_usual overridden
  · intro name
    refine ⟨load_eq_noRulePaths_iff name, ?_⟩
    by_cases configured : Configured files directory
    · rw [loadOrStandard_of_configured configured]
    · rw [loadOrStandard_of_not_configured configured,
        (load_eq_noConfig_iff _).mpr ⟨configured, rfl⟩]
      exact iff_of_false nofun nofun

section Repaired

def holding (text : String) : FileTree where
  entries := [(["forensic.yml"], .file text.toUTF8)]

def bareProject : FileTree := holding "rule-paths: []"

def bareConfig : ProjectConfig := { rulePaths := [] }

def tunedProject : FileTree := holding "name: traffic\nengine:\n  context_radius: 2\n"

def tunedConfig : ProjectConfig := { name := "traffic", engine := { contextRadius := 2 } }

theorem locate_settings (files : FileTree) : ∀ name ∈ configNames,
    files.locate true (Path.join "." name) = files.locateNames true false [".", name] := by
  have joined : ∀ name ∈ configNames, Path.join "." name = "./" ++ name := by decide +kernel
  have names : ∀ name ∈ configNames, Path.names ("./" ++ name) = [".", name] := by
    simp only [Path.names_eq]
    decide
  have relative : ∀ name ∈ configNames, Path.isAbsolute ("./" ++ name) = false := by
    decide +kernel
  have closed : ∀ name ∈ configNames, Path.endsWithSlash ("./" ++ name) = false := by
    decide +kernel
  intro name listed
  rw [joined name listed, ← names name listed]
  exact files.locate_relative true (by simp [names name listed]) (relative name listed)
    (closed name listed)

theorem written_holding {text : String} {config : ProjectConfig}
    (given : (ofText text).toOption = some config) : Written (holding text) "." config := by
  have file : (holding text).locate true (Path.join "." "forensic.yml") =
      .ok (["forensic.yml"], .file text.toUTF8) := by
    rw [locate_settings _ _ (by decide)]
    rfl
  have absent : (holding text).exists? (Path.join "." "forensic.yaml") = false := by
    rw [FileTree.exists?, locate_settings _ _ (by decide)]
    rfl
  have present : (holding text).exists? (Path.join "." "forensic.yml") = true := by
    rw [FileTree.exists?, file]
    rfl
  have parsed : ofText text = .ok config := by
    cases read : ofText text with
    | error fault =>
        rw [read] at given
        cases given
    | ok config =>
        rw [read] at given
        exact congrArg Except.ok (Option.some.inj given)
  exact ⟨_, _, .second absent present, FileTree.readText_of_locate file rfl,
    (ofText_eq_ok_iff ..).mp parsed⟩

theorem written_bareProject : Written bareProject "." bareConfig :=
  written_holding (by decide +kernel)

theorem written_tunedProject : Written tunedProject "." tunedConfig :=
  written_holding (by decide +kernel)

/-- What the environment names repairs settings that are turned down by themselves, a radius that is
no number is passed over, and what a file leaves out is as usual. -/
theorem load_effective_repaired :
    Configured bareProject "." ∧ ¬ Configured {} "." ∧
      load bareProject {} "." = .error (.noRulePaths "forensic") ∧
      loadOrStandard bareProject { rulePaths := some " a,,\tb", contextRadius := some "+ 7" } "." =
        .ok { rulePaths := ["a", "b"] } ∧
      loadOrStandard {} { rulePaths := some " , ", contextRadius := some " +07" } "." =
        .ok { engine := { contextRadius := 7 } } ∧
      load tunedProject {} "." =
        .ok { name := "traffic", rulePaths := ["rules"],
              engine := { contextRadius := 2, criticalSeverity := .critical } } := by
  have configured : Configured bareProject "." := by
    obtain ⟨_, _, settings, _⟩ := written_bareProject
    exact settings.configured
  have unset : ¬ Configured {} "." := by
    have absent : ∀ name ∈ configNames,
        (({} : FileTree).locateNames true false [".", name]).isOk = false := by decide
    rintro ⟨name, listed, present⟩
    rw [FileTree.exists?, locate_settings {} name listed, absent name listed] at present
    contradiction
  refine ⟨configured, unset, ?_, ?_, ?_, ?_⟩
  · apply ((load_effective bareProject {} ".").2.2.2.2 "forensic").1.mpr
    exact ⟨_, bareConfig, written_bareProject, (Environment.overrides_iff ..).mpr rfl, nofun, rfl⟩
  · rw [(load_effective bareProject _ ".").1 configured]
    refine ((load_effective bareProject _ ".").2.2.1 _).mpr
      ⟨_, written_bareProject, (Environment.overrides_iff ..).mpr ?_, "a", List.mem_cons_self, rfl⟩
    rw [Environment.override, Environment.overridePaths_eq]
    decide +kernel
  · obtain ⟨_, config, overrides, loaded⟩ := (load_effective {}
      { rulePaths := some " , ", contextRadius := some " +07" } ".").2.1 unset
    rw [loaded, ← (Environment.overrides_iff ..).mp overrides, Environment.override,
      Environment.overridePaths_eq]
    exact congrArg Except.ok (by decide +kernel)
  · exact ((load_effective tunedProject {} ".").2.2.1 _).mpr
      ⟨_, written_tunedProject, (Environment.overrides_iff ..).mpr rfl, "rules",
        List.mem_cons_self, rfl⟩

end Repaired

end ProjectConfig

end Compliance
